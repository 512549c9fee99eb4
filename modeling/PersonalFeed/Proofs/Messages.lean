import PersonalFeed.Proofs.Coherence.Redelivery
import PersonalFeed.Proofs.Json.Limits

/-!
Messages as they come from the stream: any bytes. The handling of a message goes on to the end but
for three kinds of bytes, and only the written form of an event changes the cache.
-/

set_option autoImplicit false

namespace PersonalFeed

variable {C R : Type}

theorem toUTF8_of_fromUTF8? {bytes : ByteArray} {text : String}
    (read : String.fromUTF8? bytes = some text) : text.toUTF8 = bytes := by
  unfold String.fromUTF8? at read
  split at read <;> cases read
  rfl

theorem fromUTF8?_toUTF8 (text : String) : String.fromUTF8? text.toUTF8 = some text :=
  dif_pos text.isValidUTF8

def IsFormOf [Numeral R] (bytes : ByteArray) (value : Json R) : Prop :=
  ∃ text : String, text.toUTF8 = bytes ∧ Json.Denotes text.toList value

/-- Why bytes are not decoded: as a text they have too many digits in a row, or they open too many
lists and records at once. -/
def Breakdown.Blames (cause : Breakdown) (bytes : ByteArray) : Prop :=
  ∃ text : String, text.toUTF8 = bytes ∧
    (cause = .oversized ∧ Json.HasLongNumber text.toList ∨
      cause = .tooDeep ∧ Json.depthLimit < Json.deepest false 0 text.toList)

section

variable [Numeral R] {bytes : ByteArray}

theorem isFormOf_of_decodeMessage {value : Json R} (read : decodeMessage bytes = .ok (some value)) :
    IsFormOf bytes value := by
  unfold decodeMessage at read
  split at read
  · cases read
  · rename_i text decoded
    refine ⟨text, toUTF8_of_fromUTF8? decoded, ?_⟩
    unfold Json.parseLenient at read
    split at read
    · rename_i found parsed
      cases read
      exact Json.denotes_of_parse parsed
    · split at read <;> cases read

theorem blames_of_decodeMessage {cause : Breakdown}
    (stopped : (decodeMessage bytes : Except Breakdown (Option (Json R))) = .error cause) :
    cause.Blames bytes := by
  unfold decodeMessage at stopped
  split at stopped
  · cases stopped
  · rename_i text decoded
    refine ⟨text, toUTF8_of_fromUTF8? decoded, ?_⟩
    unfold Json.parseLenient at stopped
    split at stopped
    · cases stopped
    · rename_i flaw parsed
      have blames := Json.blames_of_parse parsed
      cases flaw with
      | malformed => cases stopped
      | oversized =>
        cases stopped
        exact .inl ⟨rfl, blames⟩
      | tooDeep =>
        cases stopped
        exact .inr ⟨rfl, by simpa using blames 0⟩

end

variable [Score R] [Component C R]

namespace Service

variable {service : Service R} {deployment after : Deployment C R} {bytes : ByteArray}

theorem handleBytes_of_decoded {value : Json R} (decoded : decodeMessage bytes = .ok (some value))
    (other : value ≠ .null) :
    deployment.perform (service.handleBytes bytes) =
      deployment.perform (service.handleMessage value >>= fun applied =>
        pure (some (value, applied))) := by
  rw [handleBytes, decoded]
  cases value with
  | null => exact absurd rfl other
  | bool | int | real | string | array | object => rfl

/-- The handling of a message stops only for bytes that are beyond the limits of the reader and for
an event of someone whose id has no form in bytes, and it drops nothing then. It changes the cache
only for the written form of an event, and drops what that event drops. -/
theorem handleBytes_reports {result : Except (Stop R) (Option (Json R × Bool))}
    (ended : deployment.perform (service.handleBytes bytes) = (result, after)) :
    match result with
    | .error stop =>
      after.cache = deployment.cache ∧ ∃ cause, stop = .fault (.broken cause) ∧
        (cause.Blames bytes ∨ cause = .unencodable ∧ ∃ (value : Json R) (event : Event),
          IsFormOf bytes value ∧ Event.read value = .valid event ∧
            ¬ (service.root.isWhole = true ∧ ∀ person ∈ event.named, person.isWhole = true))
    | .ok none => after = deployment
    | .ok (some (value, applied)) =>
      IsFormOf bytes value ∧
        match Event.read value with
        | .valid event =>
          applied = true ∧ after.cache = deployment.cache.dropped (event.clears service.root)
        | .invalid _ => applied = false ∧ after = deployment := by
  cases decoded : (decodeMessage bytes : Except Breakdown (Option (Json R))) with
  | error cause =>
    rw [handleBytes, decoded] at ended
    cases ended
    exact ⟨rfl, cause, rfl, .inl (blames_of_decodeMessage decoded)⟩
  | ok found =>
    cases found with
    | none =>
      rw [handleBytes, decoded] at ended
      cases ended
      rfl
    | some value =>
      by_cases null : value = .null
      · rw [handleBytes, decoded, null] at ended
        cases ended
        rfl
      -- From here the bytes were read as a value, and what remains is whether it holds an event.
      have form := isFormOf_of_decodeMessage decoded
      have handled := Deployment.perform_handleMessage service deployment value
      have goesOn := (handleBytes_of_decoded decoded null).symm.trans ended
      rw [Event.of?] at handled
      cases held : Event.read value with
      | invalid violations =>
        rw [held] at handled
        cases goesOn.symm.trans (Deployment.perform_bind_ok handled _)
        refine ⟨form, ?_⟩
        rw [held]
        exact ⟨rfl, rfl⟩
      | valid event =>
        rw [held] at handled
        obtain ⟨metrics, handled⟩ := handled
        cases written : event.isWritten service.root with
        | true =>
          rw [written] at handled
          cases goesOn.symm.trans (Deployment.perform_bind_ok handled _)
          refine ⟨form, ?_⟩
          rw [held]
          exact ⟨rfl, rfl⟩
        | false =>
          rw [written] at handled
          cases goesOn.symm.trans (Deployment.perform_bind_error handled _)
          -- The event names someone whose keys cannot be written, so none of its patterns selects a
          -- key.
          have same := congrArg Deployment.cache
            (Deployment.dropped_of_none deployment (Event.clears_of_unwritten written))
          refine ⟨same, .unencodable, rfl, .inr ⟨rfl, value, event, form, held, ?_⟩⟩
          rw [← Event.isWritten_iff, written]
          exact Bool.false_ne_true

end Service

def seenMessage : String := "\x7b\"type\": \"seen_recorded\", \"actor_id\": \"ann\"\x7d"

def keptMarks : Deployment ℚ ℚ :=
  { Deployment.empty with cache :=
    ⟨[("discovery:seen:ann", .document (.object [])),
      ("discovery:seen:bob", .document (.object []))], [], true⟩ }

theorem decodeMessage_seenMessage :
    ∃ value : Json ℚ, decodeMessage seenMessage.toUTF8 = .ok (some value) ∧
      Event.of? value = some ⟨.seenRecorded, "ann", none, none⟩ := by
  have read : (Json.parseString seenMessage : Except Json.ReadError (Json ℚ)).toOption.bind
      Event.of? = some ⟨.seenRecorded, "ann", none, none⟩ := by decide +kernel
  obtain ⟨value, parsed, held⟩ := Option.bind_eq_some_iff.1 read
  refine ⟨value, ?_, held⟩
  rw [decodeMessage, fromUTF8?_toUTF8]
  dsimp only
  rw [Json.parseLenient]
  cases found : (Json.parseString seenMessage : Except Json.ReadError (Json ℚ)) with
  | error flaw =>
    rw [found] at parsed
    cases parsed
  | ok other =>
    rw [found] at parsed
    cases parsed
    rfl

/-- The message is applied, and the marks of the other viewer stay. -/
theorem handleBytes_reports_of_seenMessage :
    let service : Service ℚ := .standard "discovery" ⟨0, 0⟩
    ∃ value after, keptMarks.perform (service.handleBytes seenMessage.toUTF8) =
        (.ok (some (value, true)), after) ∧
      IsFormOf seenMessage.toUTF8 value ∧ after.cache.keys = ["discovery:seen:bob"] := by
  intro service
  obtain ⟨value, decoded, held⟩ := decodeMessage_seenMessage
  have handled := Deployment.perform_handleMessage service keptMarks value
  rw [held] at handled
  obtain ⟨metrics, handled⟩ := handled
  have other : value ≠ .null := by
    rintro rfl
    cases held
  have ended := (Service.handleBytes_of_decoded decoded other).trans
    (Deployment.perform_bind_ok handled _)
  have kept : (keptMarks.cache.dropped
      (Event.clears "discovery" ⟨.seenRecorded, "ann", none, none⟩)).keys =
        ["discovery:seen:bob"] := by decide +kernel
  exact ⟨value, _, ended, (Service.handleBytes_reports ended).1, kept⟩

end PersonalFeed
