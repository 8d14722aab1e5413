import LogPipeline.Pattern.Matching

/-!
# The leading thread

The first of the threads that a text is followed with decides what is found: as long as it can go
on nothing that comes after it counts, and when it ends its captures are the match. So it is enough
to go along one way through a pattern, the one that is tried first at each character.
-/

namespace LogPipeline

/-! ## Places in a text -/

namespace Place

theorem next_of_cons {place : Place} {c : Char} {rest : List Char} (here : place.rest = c :: rest) :
    place.next = ⟨place.position + 1, some c, rest⟩ := by
  rw [next, here]

def behind : List Char → Place → Place
  | [], place => place
  | _ :: taken, place => behind taken place.next

variable {place : Place} {taken rest : List Char}

theorem rest_next_of_append {c : Char} (here : place.rest = c :: taken ++ rest) :
    place.next.rest = taken ++ rest := by
  rw [next_of_cons here]
  rfl

theorem rest_behind (here : place.rest = taken ++ rest) :
    (behind taken place).rest = rest := by
  induction taken generalizing place with
  | nil => exact here
  | cons c taken ih => exact ih (rest_next_of_append here)

theorem position_behind (here : place.rest = taken ++ rest) :
    (behind taken place).position = place.position + taken.length := by
  induction taken generalizing place with
  | nil => rfl
  | cons c taken ih =>
      rw [List.length_cons, behind, ih (rest_next_of_append here), next_of_cons here]
      exact Nat.add_right_comm _ _ _

theorem text_behind (here : place.rest = taken ++ rest) :
    (Span.mk place (behind taken place)).text = String.ofList taken := by
  rw [Span.text, position_behind here, here, Nat.add_sub_cancel_left, List.take_left]

end Place

namespace Pattern

/-! ## The ways through the steps ahead -/

theorem andThen_append (ways others : List Way) (next : Captures → List Way) :
    andThen ways next <+: andThen (ways ++ others) next := by
  induction ways with
  | nil => exact List.nil_prefix
  | cons way ways ih =>
      cases way with
      | passes m => simp [andThen]
      | takes s ahead m => exact (List.prefix_cons_inj _).mpr ih

theorem andThen_of_taking {ways : List Way} (taking : ∀ way ∈ ways, way.isTaking)
    (next : Captures → List Way) : andThen ways next = ways := by
  induction ways with
  | nil => rfl
  | cons way ways ih =>
      obtain ⟨first, later⟩ := List.forall_mem_cons.mp taking
      cases way with
      | passes m => cases first
      | takes s ahead m => exact congrArg _ (ih later)

theorem andThen_append_taking {taking : List Way} (all : ∀ way ∈ taking, way.isTaking)
    (ways : List Way) (next : Captures → List Way) :
    andThen (ways ++ taking) next = andThen ways next ++ taking := by
  induction ways with
  | nil => exact andThen_of_taking all next
  | cons way ways ih =>
      cases way with
      | passes m => simp [andThen, List.filter_eq_self.mpr all]
      | takes s ahead m => exact congrArg _ ih

theorem andThen_assoc (ways : List Way) (next last : Captures → List Way) :
    andThen (andThen ways next) last = andThen ways fun m => andThen (next m) last := by
  induction ways with
  | nil => rfl
  | cons way ways ih =>
      cases way with
      | passes m => exact andThen_append_taking (by simp) (next m) last
      | takes s ahead m => exact congrArg _ ih

variable {place : Place} {ahead : List Step} {m : Captures}

theorem waysAhead_seq (p q : Pattern) :
    waysAhead place (.follow (.seq p q) :: ahead) m =
      waysAhead place (.follow p :: .follow q :: ahead) m := by
  simp only [waysAhead, ways, andThen_assoc]

theorem waysAhead_group (number : Nat) (p : Pattern) :
    waysAhead place (.follow (.group number p) :: ahead) m =
      waysAhead place (.follow p :: .leave number :: ahead) (m.enter number place) := by
  simp [waysAhead, ways, andThen_assoc, andThen]

theorem waysAhead_one (s : CharClass) :
    waysAhead place (.follow (.one s) :: ahead) m = [.takes s ahead m] := by
  simp [waysAhead, ways, andThen]

theorem waysAhead_again (s : CharClass) :
    waysAhead place (.again (.one s) true :: ahead) m =
      .takes s (.again (.one s) true :: ahead) m :: waysAhead place ahead m := by
  have either : waysAhead place (.again (.one s) true :: ahead) m =
      andThen [.takes s (.again (.one s) true :: ahead) m, .passes m] (waysAhead place ahead) := rfl
  simp [either, andThen]

theorem waysAhead_anyNumber (s : CharClass) :
    waysAhead place (.follow (.loop ⟨0, none, true⟩ (.one s)) :: ahead) m =
      waysAhead place (.again (.one s) true :: ahead) m := by
  rw [waysAhead_again]
  simp [waysAhead, ways, loopWays, optionalWays, prefer, andThen]

theorem waysAhead_atLeastOne (s : CharClass) :
    waysAhead place (.follow (.loop ⟨1, none, true⟩ (.one s)) :: ahead) m =
      [.takes s (.again (.one s) true :: ahead) m] := by
  simp [waysAhead, ways, loopWays, andThen]

/-! ## The first thread behind a character -/

theorem move_takes {c : Option Char} {s : CharClass} (has : c.any s.has) (rest : List Way) :
    move c (.takes s ahead m :: rest) = (⟨ahead, m⟩ :: (move c rest).1, (move c rest).2) := by
  simp [move, has]

theorem move_takes_not {c : Option Char} {s : CharClass} (lacks : c.any s.has = false)
    (rest : List Way) : move c (.takes s ahead m :: rest) = move c rest := by
  simp [move, lacks]

theorem move_of_isPrefix {c : Option Char} {ways others : List Way} (longer : ways <+: others) :
    (∀ last, move c ways = ([], some last) → move c others = ([], some last)) ∧
      ∀ first, (move c ways).1.head? = some first → (move c others).1.head? = some first := by
  obtain ⟨more, rfl⟩ := longer
  induction ways with
  | nil => exact ⟨nofun, nofun⟩
  | cons way ways ih =>
      cases way with
      | passes m => exact ⟨fun _ => id, nofun⟩
      | takes s ahead m =>
          by_cases has : c.any s.has
          · simp [move_takes has]
          · simpa [move_takes_not (Bool.eq_false_iff.mpr has)] using ih

/-- The thread that is always the first comes to its end with these captures. -/
inductive Completes : Place → Thread → Captures → Prop where
  | ends {place : Place} {t : Thread} {last : Captures}
    (ended : move place.rest.head? (waysAhead place t.ahead t.captures) = ([], some last)) :
    Completes place t last
  | goes {place : Place} {t next : Thread} {last : Captures} {c : Char} {rest : List Char}
    (here : place.rest = c :: rest)
    (first : (move (some c) (waysAhead place t.ahead t.captures)).1.head? = some next)
    (further : Completes place.next next last) : Completes place t last

def begun (p : Pattern) (threads : List Thread) (found : Option Captures) : List Thread :=
  if found.isSome then threads else threads ++ [⟨[.follow p], .none⟩]

theorem head?_begun {p : Pattern} {threads : List Thread} {t : Thread}
    (first : threads.head? = some t) (found : Option Captures) :
    (begun p threads found).head? = some t := by
  rw [begun]
  split
  · exact first
  · rw [List.head?_append, first, Option.some_or]

theorem head?_distinct {threads : List Thread} : (distinct [] threads).head? = threads.head? := by
  cases threads <;> simp [distinct]

theorem advance_eq (p : Pattern) (threads : List Thread) (found : Option Captures) :
    advance p place threads found =
      (distinct [] (moveAll place (begun p threads found)).1,
        (moveAll place (begun p threads found)).2.or found) := rfl

theorem follow_cons {p : Pattern} {position : Nat} {before : Option Char} {threads : List Thread}
    {found : Option Captures} {c : Char} {rest : List Char}
    {advanced : List Thread × Option Captures}
    (here : advance p ⟨position, before, c :: rest⟩ threads found = advanced) :
    follow p position before threads found (c :: rest) =
      if advanced.1.isEmpty && advanced.2.isSome then advanced.2
      else follow p (position + 1) (some c) advanced.1 advanced.2 rest := by
  rw [follow, here]

theorem moveAll_of_ended {t : Thread} {last : Captures} {threads : List Thread}
    (lead : threads.head? = some t)
    (ended : move place.rest.head? (waysAhead place t.ahead t.captures) = ([], some last)) :
    moveAll place threads = ([], some last) := by
  obtain ⟨others, rfl⟩ := List.head?_eq_some_iff.mp lead
  rw [moveAll, ended]

theorem head?_moveAll {t next : Thread} {threads : List Thread} (lead : threads.head? = some t)
    (first : (move place.rest.head? (waysAhead place t.ahead t.captures)).1.head? = some next) :
    (moveAll place threads).1.head? = some next := by
  obtain ⟨others, rfl⟩ := List.head?_eq_some_iff.mp lead
  rw [moveAll]
  split
  · rename_i moved
    rwa [moved] at first
  · rename_i moved
    rw [moved] at first
    rw [List.head?_append, first, Option.some_or]

theorem Completes.follow {p : Pattern} {t : Thread} {last : Captures}
    (completes : Completes place t last) {threads : List Thread} {found : Option Captures}
    (lead : (begun p threads found).head? = some t) :
    follow p place.position place.before threads found place.rest = some last := by
  -- What is found on the way, a shorter match of the same thread, does not matter at its end.
  induction completes generalizing threads found with
  | @ends place t last ended =>
      obtain ⟨position, before, rest⟩ := place
      have advanced : advance p ⟨position, before, rest⟩ threads found = ([], some last) := by
        rw [advance_eq, moveAll_of_ended lead ended]
        rfl
      cases rest with
      | nil => rw [Pattern.follow, advanced]
      | cons c rest =>
          rw [follow_cons advanced]
          rfl
  | @goes place t next last c rest here first further ih =>
      obtain ⟨position, before, _⟩ := place
      cases here
      have moved : (advance p ⟨position, before, c :: rest⟩ threads found).1.head? = some next := by
        rw [advance_eq, head?_distinct]
        exact head?_moveAll lead first
      have further : (advance p ⟨position, before, c :: rest⟩ threads found).1.isEmpty = false :=
        Bool.eq_false_iff.mpr fun none => by simp [List.isEmpty_iff.mp none] at moved
      rw [follow_cons rfl, if_neg (by simp [further])]
      exact ih (head?_begun moved _)

/-! ## Along a way through a pattern -/

namespace Completes

variable {t other : Thread} {last : Captures}

theorem of_move_eq (completes : Completes place other last)
    (same : move place.rest.head? (waysAhead place t.ahead t.captures) =
      move place.rest.head? (waysAhead place other.ahead other.captures)) :
    Completes place t last := by
  cases completes with
  | ends ended => exact .ends (same.trans ended)
  | goes here first further =>
      rw [here, List.head?_cons] at same
      exact .goes here (same ▸ first) further

theorem of_ways_eq (completes : Completes place other last)
    (same : waysAhead place t.ahead t.captures = waysAhead place other.ahead other.captures) :
    Completes place t last :=
  completes.of_move_eq (congrArg _ same)

theorem of_ways_prefix (completes : Completes place other last)
    (longer : waysAhead place other.ahead other.captures <+:
      waysAhead place t.ahead t.captures) : Completes place t last := by
  cases completes with
  | ends ended => exact .ends ((move_of_isPrefix longer).1 _ ended)
  | goes here first further => exact .goes here ((move_of_isPrefix longer).2 _ first) further

theorem nothing : Completes place ⟨[], m⟩ m :=
  .ends rfl

theorem leave {number : Nat} (completes : Completes place ⟨ahead, m.leave number place⟩ last) :
    Completes place ⟨.leave number :: ahead, m⟩ last :=
  completes.of_ways_eq (by rw [waysAhead])

theorem group {number : Nat} {p : Pattern}
    (completes : Completes place ⟨.follow p :: .leave number :: ahead, m.enter number place⟩ last) :
    Completes place ⟨.follow (.group number p) :: ahead, m⟩ last :=
  completes.of_ways_eq (waysAhead_group number p)

theorem seq {p q : Pattern}
    (completes : Completes place ⟨.follow p :: .follow q :: ahead, m⟩ last) :
    Completes place ⟨.follow (.seq p q) :: ahead, m⟩ last :=
  completes.of_ways_eq (waysAhead_seq p q)

theorem altLeft {p q : Pattern} (completes : Completes place ⟨.follow p :: ahead, m⟩ last) :
    Completes place ⟨.follow (.alt p q) :: ahead, m⟩ last := by
  refine completes.of_ways_prefix ?_
  simpa only [waysAhead, ways] using andThen_append _ _ _

theorem altRight {p q : Pattern} {s : CharClass} {after : List Step} {first : Captures}
    (opens : ways place p ahead m = [.takes s after first])
    (lacks : place.rest.head?.any s.has = false)
    (completes : Completes place ⟨.follow q :: ahead, m⟩ last) :
    Completes place ⟨.follow (.alt p q) :: ahead, m⟩ last := by
  refine completes.of_move_eq ?_
  simp only [waysAhead, ways, opens, List.singleton_append, andThen]
  exact move_takes_not lacks _

theorem one {s : CharClass} {c : Char} {rest : List Char} (here : place.rest = c :: rest)
    (has : s.has c) (further : Completes place.next ⟨ahead, m⟩ last) :
    Completes place ⟨.follow (.one s) :: ahead, m⟩ last :=
  .goes here (by simp [waysAhead_one, move, has]) further

theorem again {s : CharClass} {taken rest : List Char} (here : place.rest = taken ++ rest)
    (all : ∀ c ∈ taken, s.has c) (enough : rest.head?.any s.has = false)
    (further : Completes (place.behind taken) ⟨ahead, m⟩ last) :
    Completes place ⟨.again (.one s) true :: ahead, m⟩ last := by
  induction taken generalizing place with
  | nil =>
      refine further.of_move_eq ?_
      rw [waysAhead_again]
      exact move_takes_not (here ▸ enough) _
  | cons c taken ih =>
      obtain ⟨has, all⟩ := List.forall_mem_cons.mp all
      refine .goes here ?_ (ih (Place.rest_next_of_append here) all further)
      rw [waysAhead_again, move_takes (c := some c) has]
      rfl

theorem anyNumber {s : CharClass} {taken rest : List Char} (here : place.rest = taken ++ rest)
    (all : ∀ c ∈ taken, s.has c) (enough : rest.head?.any s.has = false)
    (further : Completes (place.behind taken) ⟨ahead, m⟩ last) :
    Completes place ⟨.follow (.loop ⟨0, none, true⟩ (.one s)) :: ahead, m⟩ last :=
  (again here all enough further).of_ways_eq (waysAhead_anyNumber s)

theorem atLeastOne {s : CharClass} {c : Char} {taken rest : List Char}
    (here : place.rest = c :: taken ++ rest) (all : ∀ c' ∈ c :: taken, s.has c')
    (enough : rest.head?.any s.has = false)
    (further : Completes (place.behind (c :: taken)) ⟨ahead, m⟩ last) :
    Completes place ⟨.follow (.loop ⟨1, none, true⟩ (.one s)) :: ahead, m⟩ last := by
  obtain ⟨has, all⟩ := List.forall_mem_cons.mp all
  refine .goes here ?_ (again (Place.rest_next_of_append here) all enough further)
  rw [waysAhead_atLeastOne]
  simp [move, has]

end Completes

/-! ## The first match -/

theorem firstMatch_of_completes {p : Pattern} {last : Captures}
    (completes : Completes place ⟨[.follow (.group 0 p)], .none⟩ last) :
    p.firstMatch place = some last :=
  completes.follow rfl

theorem advance_of_dead {p : Pattern}
    (dead : move place.rest.head? (waysAhead place [.follow p] .none) = ([], none)) :
    advance p place [] none = ([], none) := by
  simp [advance, moveAll, dead, distinct]

theorem firstMatch_next {p : Pattern} {c : Char} {rest : List Char} (here : place.rest = c :: rest)
    (dead : move place.rest.head? (waysAhead place [.follow (.group 0 p)] .none) = ([], none)) :
    p.firstMatch place = p.firstMatch place.next := by
  have advanced := advance_of_dead dead
  obtain ⟨position, before, _⟩ := place
  cases here
  exact follow_cons advanced

theorem firstMatch_of_nil {p : Pattern} (here : place.rest = [])
    (dead : move place.rest.head? (waysAhead place [.follow (.group 0 p)] .none) = ([], none)) :
    p.firstMatch place = none := by
  have advanced := advance_of_dead dead
  obtain ⟨position, before, _⟩ := place
  cases here
  exact congrArg Prod.snd advanced

theorem matchesFrom_of_firstMatch {p : Pattern} {m : Captures} {span : Span}
    (found : p.firstMatch place = some m) (whole : m.group? 0 = some span)
    (something : span.isEmpty = false) (fuel : Nat) (previous : Option Nat) :
    p.matchesFrom (fuel + 1) previous place =
      m :: p.matchesFrom fuel (some span.last.position) span.last := by
  simp [matchesFrom, found, whole, something]

theorem matchesFrom_of_none {p : Pattern} (none : p.firstMatch place = none) (fuel : Nat)
    (previous : Option Nat) : p.matchesFrom fuel previous place = [] := by
  cases fuel <;> simp [matchesFrom, none]

end Pattern

end LogPipeline
