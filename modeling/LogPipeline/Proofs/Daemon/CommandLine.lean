import LogPipeline.Daemon.CommandLine
import Mathlib.Data.List.Basic

namespace LogPipeline

namespace CliStop

def IsInformation : CliStop → Prop
  | .help _ | .version => True
  | _ => False

end CliStop

namespace CommandLine

def checkFlag : String := "--validate"

def withoutCheck (args : List String) : List String :=
  args.filter (· ≠ checkFlag)

namespace Scan

def unchecked (s : Scan) : Scan :=
  { s with validate := false }

variable {s t : Scan}

theorem give_unchecked (s : Scan) (o : CliOption) (value : String) :
    s.unchecked.give o value = (s.give o value).map unchecked := by
  cases o <;> simp only [give, apply_ite (Except.map unchecked)] <;> rfl

theorem complete_unchecked (s : Scan) : s.unchecked.complete = s.complete.map unchecked := by
  obtain ⟨path, level, format, validate, pending⟩ := s
  rcases pending with _ | ⟨o, _ | value⟩
  · rfl
  · rfl
  · exact give_unchecked ⟨path, level, format, validate, none⟩ o value

theorem begin_unchecked (s : Scan) (o : CliOption) (value : Option String) :
    s.unchecked.begin o value = (s.begin o value).map unchecked := by
  unfold Scan.begin
  rw [complete_unchecked]
  cases s.complete with
  | error stop => rfl
  | ok t =>
      cases value with
      | none => rfl
      | some value => exact give_unchecked t o value

theorem raise_unchecked (s : Scan) {f : CliFlag} (other : f ≠ .validate) (long : Bool) :
    s.unchecked.raise f long = (s.raise f long).map unchecked := by
  unfold raise
  rw [complete_unchecked]
  cases s.complete with
  | error stop => rfl
  | ok t =>
      cases f with
      | validate => exact absurd rfl other
      | help => rfl
      | version => rfl

theorem pending_give (o : CliOption) (value : String) (done : s.give o value = .ok t) :
    t.pending = s.pending := by
  cases o <;> simp only [give] at done <;> grind

theorem pending_complete (done : s.complete = .ok t) : t.pending = none := by
  obtain ⟨path, level, format, validate, pending⟩ := s
  rcases pending with _ | ⟨o, _ | value⟩
  · cases done
    rfl
  · cases done
  · exact pending_give o value done

theorem complete_of_pending (none : s.pending = none) : s.complete = .ok s := by
  rw [complete, none]

end Scan

open Scan

variable {s t : Scan}

/-! ## Options are completed when the next one begins -/

theorem begin_of_complete (done : t.complete = .ok s) (o : CliOption) (value : Option String) :
    t.begin o value = s.begin o value := by
  unfold Scan.begin
  rw [done, complete_of_pending (pending_complete done)]

theorem raise_of_complete (done : t.complete = .ok s) (f : CliFlag) (long : Bool) :
    t.raise f long = s.raise f long := by
  unfold raise
  rw [done, complete_of_pending (pending_complete done)]

theorem readLong_of_complete (done : t.complete = .ok s) (cs : List Char) :
    readLong t cs = readLong s cs := by
  simp only [readLong, begin_of_complete done, raise_of_complete done]

theorem readShort_of_complete (done : t.complete = .ok s) (c : Char) (cs : List Char) :
    readShort t (c :: cs) = readShort s (c :: cs) := by
  simp only [readShort, begin_of_complete done, raise_of_complete done]

theorem readValue_of_complete (done : t.complete = .ok s) (arg : String) :
    readValue t arg = readValue s arg := by
  have read : readValue s arg = .error .unknownArgument := by
    rw [readValue, pending_complete done]
  rw [read]
  unfold readValue
  split
  · next o pending =>
      rw [Scan.complete, pending] at done
      cases done
  · rfl

theorem readAll_of_complete (done : t.complete = .ok s) (args : List String) :
    readAll t args = readAll s args := by
  have again : s.complete = .ok s := complete_of_pending (pending_complete done)
  cases args with
  | nil => exact done.trans again.symm
  | cons arg rest =>
      unfold readAll
      simp only [readLong_of_complete done, readShort_of_complete done, readValue_of_complete done,
        done, again]

/-! ## Arguments besides the flag -/

theorem splitValue_eq (cs : List Char) :
    (splitValue cs).2 = none → (splitValue cs).1 = cs := by
  unfold splitValue
  split
  · exact nofun
  · exact fun _ => rfl

theorem mem_of_lookup {κ β : Type} [BEq κ] [LawfulBEq κ] {entries : List (κ × β)} {key : κ}
    {value : β} (known : entries.lookup key = some value) : (key, value) ∈ entries := by
  obtain ⟨front, back, rfl, -⟩ := List.lookup_eq_some_iff.mp known
  exact List.mem_append_right front List.mem_cons_self

theorem name_of_lookup_validate {name : String}
    (known : longNames.lookup name = some (.flag .validate)) : name = "validate" := by
  simpa [longNames] using mem_of_lookup known

theorem ne_validate_of_lookup {c : Char} {f : CliFlag}
    (known : shortNames.lookup c = some (.flag f)) : f ≠ .validate := by
  rintro rfl
  simpa [shortNames] using mem_of_lookup known

theorem readLong_unchecked (s : Scan) {cs : List Char} (other : String.ofList cs ≠ "validate") :
    readLong s.unchecked cs = (readLong s cs).map unchecked := by
  unfold readLong
  have whole := splitValue_eq cs
  generalize splitValue cs = parts at whole ⊢
  obtain ⟨name, value⟩ := parts
  dsimp only at whole ⊢
  split
  · exact begin_unchecked s _ _
  · rfl
  · next f known =>
      refine raise_unchecked s ?_ true
      rintro rfl
      exact other (whole rfl ▸ name_of_lookup_validate known)
  · rfl

theorem readShort_unchecked (s : Scan) (cs : List Char) :
    readShort s.unchecked cs = (readShort s cs).map unchecked := by
  induction cs generalizing s with
  | nil => rfl
  | cons c rest ih =>
      unfold readShort
      split
      · next f known =>
          rw [raise_unchecked s (ne_validate_of_lookup known)]
          cases s.raise f false with
          | error stop => rfl
          | ok t => exact ih t
      · split <;> exact begin_unchecked s _ _
      · rfl

theorem readValue_unchecked (s : Scan) (arg : String) :
    readValue s.unchecked arg = (readValue s arg).map unchecked := by
  obtain ⟨path, level, format, validate, pending⟩ := s
  rcases pending with _ | ⟨o, _ | value⟩ <;> rfl

/-! ## All arguments -/

def GoesWell (read : Except CliStop Scan) : Prop :=
  ∀ stop, read = .error stop → stop.IsInformation

theorem goesWell_of_bind {x : Except CliStop Scan} {f : Scan → Except CliStop Scan}
    (well : GoesWell (x >>= f)) : GoesWell x := by
  intro stop failed
  exact well stop (by rw [failed]; rfl)

theorem not_information_of_give {o : CliOption} {value : String} {stop : CliStop}
    (failed : s.give o value = .error stop) : ¬ stop.IsInformation := by
  cases o <;> simp only [give] at failed <;> grind [CliStop.IsInformation]

theorem complete_of_goesWell (well : GoesWell s.complete) : ∃ t, s.complete = .ok t := by
  cases done : s.complete with
  | ok t => exact ⟨t, rfl⟩
  | error stop =>
      refine absurd (well stop done) ?_
      obtain ⟨path, level, format, validate, pending⟩ := s
      rcases pending with _ | ⟨o, _ | value⟩
      · cases done
      · cases done
        exact id
      · exact not_information_of_give done

theorem raise_validate_of_goesWell (well : GoesWell (s.raise .validate true)) :
    ∃ t, s.complete = .ok t ∧ s.raise .validate true = .ok { t with validate := true } := by
  obtain ⟨t, done⟩ := complete_of_goesWell (goesWell_of_bind well)
  refine ⟨t, done, ?_⟩
  have raised : s.raise .validate true =
      if t.validate then .error .argumentConflict else .ok { t with validate := true } := by
    unfold raise
    rw [done]
    rfl
  rw [raised] at well ⊢
  split
  · next twice =>
      rw [if_pos twice] at well
      exact (well _ rfl).elim
  · rfl

theorem readAll_withoutCheck {args : List String} (well : GoesWell (readAll s args)) :
    readAll s.unchecked (withoutCheck args) = (readAll s args).map unchecked := by
  induction args generalizing s with
  | nil => exact complete_unchecked s
  | cons arg rest ih =>
      -- What follows the first argument goes well if all does.
      have later : ∀ {x : Except CliStop Scan}, GoesWell (x >>= fun t => readAll t rest) →
          (x.map unchecked >>= fun t => readAll t (withoutCheck rest)) =
            (x >>= fun t => readAll t rest).map unchecked := by
        intro x well
        cases x with
        | error stop => rfl
        | ok t => exact ih well
      by_cases flag : arg = checkFlag
      · subst flag
        have gone : withoutCheck (checkFlag :: rest) = withoutCheck rest :=
          List.filter_cons_of_neg (by simp)
        have first : readAll s (checkFlag :: rest) =
            s.raise .validate true >>= fun t => readAll t rest := rfl
        rw [first] at well ⊢
        obtain ⟨t, done, raised⟩ := raise_validate_of_goesWell (goesWell_of_bind well)
        have same : s.unchecked.complete = .ok t.unchecked := by
          rw [complete_unchecked, done]
          rfl
        rw [raised] at well ⊢
        rw [gone, readAll_of_complete same]
        exact ih well
      · have kept : withoutCheck (arg :: rest) = arg :: withoutCheck rest :=
          List.filter_cons_of_pos (decide_eq_true flag)
        rw [kept]
        unfold readAll at well ⊢
        split at well
        · next dashes =>
            split at well
            · next last =>
                rw [List.isEmpty_iff.mp last]
                exact complete_unchecked s
            · exact (well _ rfl).elim
        · next cs _ named =>
            rw [readLong_unchecked]
            · exact later well
            · intro name
              have letters : cs = "validate".toList := by rw [← name, String.toList_ofList]
              exact flag (String.toList_inj.mp (named.trans (by rw [letters]; rfl)))
        · rw [readShort_unchecked]
          exact later well
        · rw [readValue_unchecked]
          exact later well

theorem parse_withoutCheck {args : List String}
    (well : ∀ stop, parse args = .error stop → stop.IsInformation) :
    parse (withoutCheck args) =
      (parse args).map fun c => { c with validateOnly := false } := by
  have read : GoesWell (readAll .start args) := by
    intro stop failed
    exact well stop (by rw [parse, failed]; rfl)
  have same : readAll .start (withoutCheck args) = (readAll .start args).map unchecked :=
    readAll_withoutCheck read
  unfold parse
  rw [same]
  cases readAll .start args with
  | error stop => rfl
  | ok t => rfl

end CommandLine

end LogPipeline
