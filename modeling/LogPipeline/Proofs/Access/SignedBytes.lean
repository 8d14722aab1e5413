import LogPipeline.Proofs.Access.Authentication

/-!
# What the signed bytes tell of a request

The access key, the timestamp and the body are signed one right after the other, so the bytes do not
tell where the timestamp ends. Only white space can change sides without a difference to the number
that is sent, and digits only if the clock of a client may be off by almost the whole time since the
epoch.
-/

namespace LogPipeline

open Pipeline Number

/-! ## Bytes of texts -/

theorem toList_loop_eq (bytes : ByteArray) (start : Nat) (read : List UInt8) :
    ByteArray.toList.loop bytes start read = read.reverse ++ bytes.data.toList.drop start := by
  fun_induction ByteArray.toList.loop bytes start read with
  | case1 start read inside ih =>
      have first : bytes.data.toList.drop start =
          bytes.get! start :: bytes.data.toList.drop (start + 1) := by
        rw [List.drop_eq_getElem_cons (by simpa using inside), ByteArray.get!,
          Array.getElem_toList, getElem!_pos bytes.data start (by simpa using inside)]
      rw [ih, first, List.reverse_cons, List.append_assoc, List.singleton_append]
  | case2 start read outside =>
      rw [List.drop_eq_nil_of_le (by simpa using outside), List.append_nil]

theorem toList_eq_data (bytes : ByteArray) : bytes.toList = bytes.data.toList := by
  rw [ByteArray.toList, toList_loop_eq]
  rfl

namespace Signature

theorem message_eq (accessKey timestamp body : String) :
    message accessKey timestamp body = (accessKey ++ timestamp ++ body).toUTF8.data.toList := by
  simp only [message, toList_eq_data, String.toUTF8, String.toByteArray_append,
    ByteArray.toList_data_append]

theorem message_inj {accessKey timestamp body otherTimestamp otherBody : String} :
    message accessKey timestamp body = message accessKey otherTimestamp otherBody ↔
      timestamp.toList ++ body.toList = otherTimestamp.toList ++ otherBody.toList := by
  rw [message_eq, message_eq, Array.toList_inj, ← ByteArray.ext_iff, String.toUTF8, String.toUTF8,
    String.toByteArray_inj, ← String.toList_inj]
  simp only [String.toList_append, List.append_assoc, List.append_cancel_left_eq]

end Signature

/-! ## Two requests -/

namespace AuthRequest

def signedBytes (request : AuthRequest) : Crypto.Bytes :=
  Signature.message request.accessKey request.timestamp request.body

theorem IsSigned.of_sameBytes {first second : AuthRequest} {app : App}
    (signed : first.IsSigned app) (sameBytes : first.signedBytes = second.signedBytes)
    (sameSignature : first.signature = second.signature) : second.IsSigned app := by
  unfold IsSigned Signature.sign at *
  rw [← sameSignature, signed]
  exact congrArg (fun bytes => (Crypto.base64 (Crypto.hmacSha256 app.secretKey.toUTF8.toList
    bytes)).toUTF8) sameBytes

/-- The beginning of a body, digits and then white space, is the end of the other timestamp. -/
structure Moves (first second : AuthRequest) (digits blanks : List Char) : Prop where
  timestamp : second.timestamp.toList = first.timestamp.toList ++ (digits ++ blanks)
  body : first.body.toList = (digits ++ blanks) ++ second.body.toList
  digital : ∀ c ∈ digits, isDigit c = true
  blank : ∀ c ∈ blanks, Text.isBlank c = true

def EndsSolid (text : String) : Prop :=
  ∀ c ∈ text.toList.getLast?, Text.isBlank c = false

variable {first second : AuthRequest}

theorem Moves.eq_of_endsSolid {blanks : List Char} (moves : Moves first second [] blanks)
    (solid : EndsSolid second.timestamp) :
    first.timestamp = second.timestamp ∧ first.body = second.body := by
  obtain ⟨timestamp, body, -, blank⟩ := moves
  have none : blanks = [] := by
    rcases List.eq_nil_or_concat blanks with none | ⟨rest, last, rfl⟩
    · exact none
    · have ends := solid last (by simp [timestamp])
      cases ends.symm.trans (blank last (by simp))
  rw [none, List.nil_append] at timestamp body
  rw [List.append_nil] at timestamp
  exact ⟨String.toList_inj.mp timestamp.symm, String.toList_inj.mp body⟩

theorem exists_moves {n m : Int} (longer : ∃ more, second.timestamp.toList =
    first.timestamp.toList ++ more ∧ first.body.toList = more ++ second.body.toList)
    (states : StatesInt64 first.timestamp n) (also : StatesInt64 second.timestamp m) :
    ∃ digits blanks, Moves first second digits blanks ∧
      m.natAbs = n.natAbs * 10 ^ digits.length + digitsValue digits := by
  obtain ⟨more, timestamp, body⟩ := longer
  obtain ⟨digits, blanks, rfl, digital, blank, value⟩ := states.extend timestamp also
  exact ⟨digits, blanks, ⟨timestamp, body, digital, blank⟩, value⟩

end AuthRequest

theorem eq_zero_of_close {now n m : Int} {window places value : Nat}
    (narrow : 11 * window < 9 * now.natAbs) (close : (now - n).natAbs ≤ window)
    (also : (now - m).natAbs ≤ window)
    (shifted : m.natAbs = n.natAbs * 10 ^ places + value) : places = 0 := by
  cases places with
  | zero => rfl
  | succ places =>
      have tenfold : n.natAbs * 10 ≤ n.natAbs * 10 ^ (places + 1) :=
        Nat.mul_le_mul_left _ (Nat.le_self_pow (Nat.succ_ne_zero places) 10)
      omega

namespace Pipeline

variable {α : Type} {p : Pipeline α} {request : AuthRequest} {now : Timestamp}

def PassesUnsigned (p : Pipeline α) (request : AuthRequest) (now : Timestamp) : Prop :=
  (∃ context, (authenticateAt request now p).1 = .ok (.ok context)) ∨
    (authenticateAt request now p).1 = .ok (.error .signature)

theorem PassesUnsigned.sent (passes : p.PassesUnsigned request now) :
    ∃ sent, StatesInt64 request.timestamp sent ∧
      (now.millis - sent).natAbs ≤ p.gateway.validityMs.toNat := by
  have window : ∀ app, (∀ r ∈ request.requirementsUnsigned app p.gateway.validityMs now, r.1) →
      ∃ sent, StatesInt64 request.timestamp sent ∧
        (now.millis - sent).natAbs ≤ p.gateway.validityMs.toNat := by
    intro app all
    exact all (_, .timestamp) (by simp [AuthRequest.requirementsUnsigned])
  rcases passes with ⟨context, answered⟩ | answered
  · rcases judged_of_answered answered with ⟨_, refused⟩ | ⟨app, _, judged⟩
    · cases refused
    · exact window app fun r member =>
        (judged.ok_iff.mp rfl).1 r (List.mem_append_left _ member)
  · rcases judged_of_answered answered with ⟨_, refused⟩ | ⟨app, _, judged⟩
    · cases refused
    · exact window app ((judged.error_iff.mp rfl).before (by
        simp [AuthRequest.requirementsUnsigned]))

theorem PassesUnsigned.moves {first second : AuthRequest} (passes : p.PassesUnsigned first now)
    (also : p.PassesUnsigned second now) (longer : ∃ more, second.timestamp.toList =
      first.timestamp.toList ++ more ∧ first.body.toList = more ++ second.body.toList) :
    ∃ digits blanks, first.Moves second digits blanks ∧
      (11 * p.gateway.validityMs.toNat < 9 * now.millis.natAbs → digits = []) := by
  obtain ⟨n, states, close⟩ := passes.sent
  obtain ⟨m, statesAlso, closeAlso⟩ := also.sent
  obtain ⟨digits, blanks, moves, value⟩ := AuthRequest.exists_moves longer states statesAlso
  exact ⟨digits, blanks, moves, fun narrow =>
    List.length_eq_zero_iff.mp (eq_zero_of_close narrow close closeAlso value)⟩

/-- Two requests with one access key that only their signatures may tell apart, and not even these:
then the beginning of one body is the end of the other timestamp. What is moved is white space,
after digits if the clock of a client may be that far off; and nothing is moved if no timestamp ends
with white space. -/
theorem signed_bytes_determine (p : Pipeline α) (now : Timestamp) (first second : AuthRequest)
    (sameKey : first.accessKey = second.accessKey) (passes : p.PassesUnsigned first now)
    (also : p.PassesUnsigned second now) (sameBytes : first.signedBytes = second.signedBytes) :
    ∃ digits blanks, (first.Moves second digits blanks ∨ second.Moves first digits blanks) ∧
      (11 * p.gateway.validityMs.toNat < 9 * now.millis.natAbs → digits = [] ∧
        (AuthRequest.EndsSolid first.timestamp → AuthRequest.EndsSolid second.timestamp →
          first.timestamp = second.timestamp ∧ first.body = second.body)) := by
  rw [AuthRequest.signedBytes, AuthRequest.signedBytes, sameKey, Signature.message_inj,
    List.append_eq_append_iff] at sameBytes
  rcases sameBytes with longer | longer
  · obtain ⟨digits, blanks, moves, narrow⟩ := passes.moves also longer
    refine ⟨digits, blanks, .inl moves, fun close => ?_⟩
    obtain rfl := narrow close
    exact ⟨rfl, fun _ solid => moves.eq_of_endsSolid solid⟩
  · obtain ⟨digits, blanks, moves, narrow⟩ := also.moves passes longer
    refine ⟨digits, blanks, .inr moves, fun close => ?_⟩
    obtain rfl := narrow close
    exact ⟨rfl, fun solid _ => (moves.eq_of_endsSolid solid).imp Eq.symm Eq.symm⟩

/-- The clock of a client may be off by nine milliseconds, eleven after the beginning of the epoch,
so that a digit can move. -/
theorem signed_bytes_determine_early :
    let app : App := .new ⟨"app"⟩ "key" "secret"
    let known := { Backend.empty ⟨"", 1⟩ .defaults with apps := .put .empty app }
    let idle : Pipeline Rat := .idle known 0
    let p : Pipeline Rat := { idle with gateway := .new 0 9 }
    let now : Timestamp := .ofMillis 11
    let signature := Signature.sign "secret" "key" "2" "0 body"
    let first : AuthRequest := ⟨"key", signature, "2", "", .signature, "0 body"⟩
    let second : AuthRequest := ⟨"key", signature, "20 ", "", .signature, "body"⟩
    p.PassesUnsigned first now ∧ p.PassesUnsigned second now ∧
      first.signedBytes = second.signedBytes ∧
      ∃ digits blanks, (first.Moves second digits blanks ∨ second.Moves first digits blanks) ∧
        (11 * p.gateway.validityMs.toNat < 9 * now.millis.natAbs → digits = [] ∧
          (AuthRequest.EndsSolid first.timestamp → AuthRequest.EndsSolid second.timestamp →
            first.timestamp = second.timestamp ∧ first.body = second.body)) := by
  intro app known idle p now signature first second
  have sameBytes : first.signedBytes = second.signedBytes :=
    Signature.message_inj.mpr (by decide +kernel)
  have signed : first.IsSigned app := rfl
  have states : StatesInt64 first.timestamp 2 :=
    ⟨⟨[], ['2'], [], by decide +kernel, nofun, nofun,
      .plain ⟨by decide, List.all_eq_true.mp rfl⟩⟩, by decide⟩
  have statesAlso : StatesInt64 second.timestamp 20 :=
    ⟨⟨[], ['2', '0'], [' '], by decide +kernel, nofun, List.forall_mem_singleton.mpr rfl,
      .plain ⟨by decide, List.all_eq_true.mp rfl⟩⟩, by decide⟩
  have passes : p.PassesUnsigned first now :=
    .inl (authenticated_of_signed rfl rfl
      (AuthRequest.holds_unsigned rfl nofun states (by decide)) signed)
  have also : p.PassesUnsigned second now :=
    .inl (authenticated_of_signed rfl rfl
      (AuthRequest.holds_unsigned rfl nofun statesAlso (by decide))
      (signed.of_sameBytes sameBytes rfl))
  exact ⟨passes, also, sameBytes,
    signed_bytes_determine p now first second rfl passes also sameBytes⟩

/-- A signature of one body authenticates another, which begins without the white space that now
ends the timestamp. -/
theorem replayed_with_another_body :
    let app : App := .new ⟨"app"⟩ "key" "secret"
    let known := { Backend.empty ⟨"", 1⟩ .defaults with apps := .put .empty app }
    let idle : Pipeline Rat := .idle known 0
    let p : Pipeline Rat := { idle with gateway := .new 0 300000 }
    let now : Timestamp := .ofMillis 1700000000000
    let signature := Signature.sign "secret" "key" "1700000000000" " body"
    let sent : AuthRequest := ⟨"key", signature, "1700000000000", "", .signature, " body"⟩
    let replayed : AuthRequest := ⟨"key", signature, "1700000000000 ", "", .signature, "body"⟩
    p.PassesUnsigned sent now ∧ p.PassesUnsigned replayed now ∧
      sent.signedBytes = replayed.signedBytes ∧
      (∃ context, (authenticateAt replayed now p).1 = .ok (.ok context)) ∧
      sent.timestamp ≠ replayed.timestamp ∧ sent.body ≠ replayed.body := by
  intro app known idle p now signature sent replayed
  have sameBytes : sent.signedBytes = replayed.signedBytes :=
    Signature.message_inj.mpr (by decide +kernel)
  have signed : sent.IsSigned app := rfl
  have digits : Writes ['1', '7', '0', '0', '0', '0', '0', '0', '0', '0', '0', '0', '0']
      1700000000000 := .plain ⟨by decide, List.all_eq_true.mp rfl⟩
  have authenticated : ∃ context, (authenticateAt sent now p).1 = .ok (.ok context) :=
    authenticated_of_signed rfl rfl (AuthRequest.holds_unsigned rfl nofun
      ⟨⟨[], _, [], by decide +kernel, nofun, nofun, digits⟩, by decide⟩ (by decide)) signed
  have again : ∃ context, (authenticateAt replayed now p).1 = .ok (.ok context) :=
    authenticated_of_signed rfl rfl (AuthRequest.holds_unsigned rfl nofun
      ⟨⟨[], _, [' '], by decide +kernel, nofun, List.forall_mem_singleton.mpr rfl, digits⟩,
        by decide⟩ (by decide))
      (signed.of_sameBytes sameBytes rfl)
  exact ⟨.inl authenticated, .inl again, sameBytes, again, by decide +kernel, by decide +kernel⟩

end Pipeline

end LogPipeline
