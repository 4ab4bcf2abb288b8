import WorkloadGovernor.Lib.Js
import WorkloadGovernor.Lib.JsonRoundTrip

namespace WorkloadGovernor
open JsonText

/-- `none` is the exception for texts of different sizes. -/
def timingSafeEqual (a b : ByteArray) : Option Bool :=
  if a.size = b.size then some (a.data = b.data) else none

section Source
variable (hmac : String → String → String)

/-- `hmac secret payload` is the digest in hexadecimal. -/
def validateGitHubSignature (payload signature secret : String) : Option Bool :=
  let digest := "sha256=" ++ hmac secret payload
  timingSafeEqual digest.toUTF8 signature.toUTF8

/-- The secret is `GITHUB_WEBHOOK_SECRET`, and an error is the status and text it is answered
with. -/
def checkSignature (secret signature : Option String) (body : Value) : Except (Nat × String) Unit :=
  match Js.truthy signature with
  | none => .error (401, "missing signature")
  | some signature =>
    match Js.truthy secret with
    | none => .error (500, "webhook not configured")
    | some secret =>
      let payload := stringify body
      match validateGitHubSignature hmac payload signature secret with
      | some true => .ok ()
      | some false => .error (401, "invalid signature")
      | none => .error (401, "invalid signature")

/-- A request to `/webhooks/github` up to its signature. The JSON parser comes first, and what
it gives is what the handler goes on with. -/
def postGithub (secret signature : Option String) (raw : String) : Except (Nat × String) Value :=
  match parse raw with
  | none => .error (400, "malformed JSON body")
  | some body => (checkSignature hmac secret signature body).map fun _ => body

end Source

section Checking
variable {hmac : String → String → String} {secret payload signature raw : String} {header : Option String}
  {body : Value}

theorem validateGitHubSignature_eq_true : validateGitHubSignature hmac payload signature secret = some true ↔
    signature = "sha256=" ++ hmac secret payload := by
  simp only [validateGitHubSignature, timingSafeEqual, Option.ite_none_right_eq_some, Option.some_inj,
    decide_eq_true_eq]
  constructor
  · rintro ⟨_, same⟩
    exact (String.toByteArray_inj.mp (ByteArray.ext same)).symm
  · rintro rfl
    exact ⟨rfl, rfl⟩

theorem digest_not_empty (digest : String) : "sha256=" ++ digest ≠ "" := by
  intro empty
  have letters := congrArg String.toList empty
  rw [String.toList_append] at letters
  cases letters

theorem checkSignature_of_set (set : secret ≠ "") (present : signature ≠ "") :
    checkSignature hmac (some secret) (some signature) body =
      if signature = "sha256=" ++ hmac secret (stringify body) then .ok () else .error (401, "invalid signature") := by
  have sent : Js.truthy (some signature) = some signature := Option.filter_eq_some_iff.mpr ⟨rfl, decide_eq_true present⟩
  have configured : Js.truthy (some secret) = some secret := Option.filter_eq_some_iff.mpr ⟨rfl, decide_eq_true set⟩
  rw [checkSignature, sent, configured]
  dsimp only
  split
  · rename_i valid
    exact (if_pos (validateGitHubSignature_eq_true.mp valid)).symm
  · rename_i invalid
    refine (if_neg fun same => ?_).symm
    cases invalid.symm.trans (validateGitHubSignature_eq_true.mpr same)
  · rename_i invalid
    refine (if_neg fun same => ?_).symm
    cases invalid.symm.trans (validateGitHubSignature_eq_true.mpr same)

/-- The digest that is asked for is the one of the body written again. -/
theorem checkSignature_eq_ok : checkSignature hmac (some secret) header body = .ok () ↔
    secret ≠ "" ∧ header = some ("sha256=" ++ hmac secret (stringify body)) := by
  cases sent : Js.truthy header with
  | none =>
    have missing : checkSignature hmac (some secret) header body = .error (401, "missing signature") := by
      rw [checkSignature, sent]
    refine iff_of_false (by rw [missing]; exact nofun) ?_
    rintro ⟨_, rfl⟩
    exact Option.filter_eq_none_iff.mp sent _ rfl (decide_eq_true (digest_not_empty _))
  | some signature =>
    obtain ⟨rfl, present⟩ := Option.filter_eq_some_iff.mp sent
    by_cases unset : secret = ""
    · have unconfigured : checkSignature hmac (some secret) (some signature) body =
          .error (500, "webhook not configured") := by
        rw [checkSignature, sent, unset]
        rfl
      refine iff_of_false (by rw [unconfigured]; exact nofun) ?_
      exact fun passed => passed.1 unset
    · rw [checkSignature_of_set unset (of_decide_eq_true present), Option.some_inj]
      split_ifs with same
      · exact iff_of_true rfl ⟨unset, same⟩
      · exact iff_of_false nofun fun passed => same passed.2

theorem postGithub_isOk (parsed : parse raw = some body) : (postGithub hmac (some secret) header raw).isOk ↔
    secret ≠ "" ∧ header = some ("sha256=" ++ hmac secret (stringify body)) := by
  rw [← checkSignature_eq_ok, postGithub, parsed]
  dsimp only
  cases checkSignature hmac (some secret) header body with
  | ok => exact iff_of_true rfl rfl
  | error => exact iff_of_false Bool.false_ne_true nofun

/-- Exactly the signatures of the bytes received pass, if and only if there is a secret and these
bytes are what is written for some value: with no white space, the fewest digits and escapes, and
each property once, in its place. -/
theorem signs_raw_body_iff (parsed : parse raw = some body)
    (no_collision : hmac secret (stringify body) = hmac secret raw → stringify body = raw) :
    (∀ header, (postGithub hmac (some secret) header raw).isOk ↔ header = some ("sha256=" ++ hmac secret raw)) ↔
      secret ≠ "" ∧ ∃ value : Value, value.Valid ∧ stringify value = raw := by
  rw [← stringify_parse_iff parsed]
  constructor
  · intro checks
    obtain ⟨set, same⟩ := (postGithub_isOk parsed).mp ((checks _).mpr rfl)
    refine ⟨set, no_collision ?_⟩
    exact (String.append_right_inj _).mp (Option.some.inj same).symm
  · rintro ⟨set, same⟩ header
    rw [postGithub_isOk parsed, same]
    exact and_iff_right set

def openedBody : Value :=
  .object [("action".toList.flatMap encode, .string ("opened".toList.flatMap encode)),
    ("draft".toList.flatMap encode, .bool false)]

def openedText : String := "\x7b\"action\":\"opened\",\"draft\":false\x7d"

/-- HMAC-SHA256 of some texts under one secret. -/
def sampleHmac (secret text : String) : String :=
  if secret = "secret" ∧ text = "{}" then "77325902caaca812dc259733aacd046b73817372c777b8d95b402647474516e13"
  else if secret = "secret" ∧ text = "{ }" then
    "a476607791849d03ca57e41b009518ac877b6fb0f926b234d4af18dd13190034"
  else if secret = "secret" ∧ text = openedText then
    "a0c07bc67bc68d091e455541be0c02b846ee997f4be5dd86d3399ee0aa60c897"
  else if secret = "secret" ∧ text = openedText ++ "\n" then
    "7e8290aba5c85ca0d9d2645cfe8ad64c71f90e64d5981746a0f37a87c385a157"
  else ""

theorem openedBody_valid : openedBody.Valid := by
  refine .object ⟨by decide, by decide⟩ (List.forall_mem_cons.mpr ⟨.string _, ?_⟩)
  exact List.forall_mem_singleton.mpr (.bool false)

theorem openedBody_written : stringify openedBody = openedText := by decide +kernel

/-- Signed as it is written a body passes, and with a line break behind it it does not. -/
theorem opened_body_signed :
    (∀ header, (postGithub sampleHmac (some "secret") header openedText).isOk ↔
      header = some ("sha256=" ++ sampleHmac "secret" openedText)) ∧
    ¬ ∀ header, (postGithub sampleHmac (some "secret") header (openedText ++ "\n")).isOk ↔
      header = some ("sha256=" ++ sampleHmac "secret" (openedText ++ "\n")) := by
  constructor
  · obtain ⟨body, parsed, written⟩ := parse_stringify openedBody_valid
    rw [openedBody_written] at parsed written
    exact (signs_raw_body_iff parsed fun _ => written).mpr ⟨by decide, openedBody, openedBody_valid, openedBody_written⟩
  · have blank : ∀ c ∈ ['\n'], isSpace c = true := List.forall_mem_singleton.mpr (by decide)
    obtain ⟨body, parsed, written⟩ := parse_stringify_append openedBody_valid blank
    rw [openedBody_written] at parsed written
    have apart : sampleHmac "secret" (stringify body) ≠ sampleHmac "secret" (openedText ++ "\n") := by
      rw [written]
      decide
    intro signs
    obtain ⟨_, same⟩ := (signs_raw_body_iff parsed fun same => absurd same apart).mp signs
    rw [← stringify_parse_iff parsed, written] at same
    exact absurd same (by decide)

theorem spaced_object_refused :
    parse "{ }" = some (.object []) ∧
    sampleHmac "secret" (stringify (.object [])) ≠ sampleHmac "secret" "{ }" ∧
    postGithub sampleHmac (some "secret") (some ("sha256=" ++ sampleHmac "secret" "{ }")) "{ }" =
      .error (401, "invalid signature") := by
  have parsed : parse "{ }" = some (.object []) := rfl
  have differ : sampleHmac "secret" (stringify (.object [])) ≠ sampleHmac "secret" "{ }" := by decide
  have wrong : "sha256=" ++ sampleHmac "secret" "{ }" ≠
      "sha256=" ++ sampleHmac "secret" (stringify (.object [])) :=
    fun same => differ ((String.append_right_inj _).mp same).symm
  refine ⟨parsed, differ, ?_⟩
  rw [postGithub, parsed]
  dsimp only
  rw [checkSignature_of_set (by decide) (digest_not_empty _), if_neg wrong]
  rfl

end Checking

end WorkloadGovernor
