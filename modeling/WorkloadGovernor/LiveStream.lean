import WorkloadGovernor.Lib.EventStream
import WorkloadGovernor.Lib.JsonLine
import WorkloadGovernor.LiveCounters
import WorkloadGovernor.LivePublication

namespace WorkloadGovernor

namespace LiveStream
open EventStream JsonText

section Source

def typeText : LiveEventType → String
  | .capUpdated => "cap_updated"
  | .assignmentCreated => "assignment_created"
  | .applicationCreated => "application_created"

/-- A field of `event.data`; `JSON.stringify` leaves it out where it is undefined. -/
def dataField {α : Type} (toValue : α → Value) (name : String) : EventBus.Field α → List (List CodeUnit × Value)
  | .undefined => []
  | .null => [(units name, .null)]
  | .value a => [(units name, toValue a)]

def textValue (text : String) : Value := .string (units text)

def numberValue (number : Int) : Value := .number (.ofRat number)

def dataFields (event : EventBus.LiveEvent) : List (List CodeUnit × Value) :=
  dataField textValue "eventType" event.eventType ++ (dataField textValue "orgId" event.orgId ++
    dataField numberValue "issueId" event.issueId)

/-- A response of `GET /api/events/stream`: what was written to it, and whether its subscriber is registered and its
heartbeat runs. -/
structure StreamResponse where
  written : List Char
  subscribed : Bool
  deriving DecidableEq

inductive ServerStep where
  /-- A request for the stream. -/
  | stream
  /-- The interval of a response fires. -/
  | heartbeat (index : Nat)
  | publish (event : EventBus.LiveEvent)
  /-- The request of a response is closed. -/
  | close (index : Nat)

/-- What the subscriber of a response writes. -/
def eventFrame (event : EventBus.LiveEvent) : Frame :=
  .message ⟨(typeText event.type).toList, (stringify (.object (dataFields event))).toList⟩

def StreamResponse.write (response : StreamResponse) (frame : Frame) : StreamResponse :=
  if response.subscribed then { response with written := response.written ++ frame.text } else response

def serverStep (responses : List StreamResponse) : ServerStep → List StreamResponse
  | .stream => responses ++ [⟨(Frame.comment " connected".toList).text, true⟩]
  | .heartbeat index => responses.modify index fun response => response.write (.comment " heartbeat".toList)
  | .publish event => responses.map fun response => response.write (eventFrame event)
  | .close index => responses.modify index fun response => { response with subscribed := false }

/-- A property of the parsed data that is a text. -/
def textProperty (value : Value) (name : String) : Option String :=
  match value with
  | .object fields =>
    match fields.lookup (units name) with
    | some (.string text) => some (String.ofList (decodeUnits text))
    | _ => none
  | _ => none

/-- `handleEvent` of the provider; where `JSON.parse` throws the state stays. -/
def handleEvent (state : CapState) (message : Message) : CapState :=
  match parse (String.ofList message.data) with
  | some data => updateCounts state ⟨textProperty data "eventType", textProperty data "orgId"⟩
  | none => state

def listened : List String := ["cap_updated", "assignment_created", "application_created"]

/-- The browser hands a message to the listener of its type. -/
def onMessage (state : CapState) (message : Message) : CapState :=
  if String.ofList message.type ∈ listened then handleEvent state message else state

/-- The state of the provider once a text has come in over one connection. -/
def received (state : CapState) (text : List Char) : CapState :=
  (Reader.start.read text).2.foldl onMessage state

end Source

section Proofs
variable {event : EventBus.LiveEvent} {responses : List StreamResponse} {response : StreamResponse} {k : Nat}

/-- What the provider reads of an event. -/
def shown (event : EventBus.LiveEvent) : LiveEvent := ⟨event.eventType.value?, event.orgId.value?⟩

/-- The event that the step hands to the subscriber of a response. -/
def handed (k : Nat) (responses : List StreamResponse) : ServerStep → Option EventBus.LiveEvent
  | .publish event => if (responses[k]?).any StreamResponse.subscribed then some event else none
  | _ => none

section Fields
variable {α : Type} {toValue : α → Value} {name wanted : String} {field : EventBus.Field α}
  {rest : List (List CodeUnit × Value)}

theorem dataField_names : ((dataField toValue name field).map Prod.fst).Sublist [units name] := by
  cases field with
  | undefined => exact List.nil_sublist _
  | null | value => exact List.Sublist.refl _

theorem dataField_each (plain : ∀ a, Atomic (toValue a) ∧ (toValue a).Valid) :
    ∀ written ∈ dataField toValue name field, Atomic written.2 ∧ written.2.Valid := by
  intro written member
  cases field with
  | undefined => cases member
  | null =>
    rw [List.mem_singleton.mp member]
    exact ⟨atomic_null, .null⟩
  | value a =>
    rw [List.mem_singleton.mp member]
    exact plain a

theorem textValue_atomic (text : String) : Atomic (textValue text) ∧ (textValue text).Valid :=
  ⟨atomic_string _, .string _⟩

theorem numberValue_atomic (number : Int) : Atomic (numberValue number) ∧ (numberValue number).Valid :=
  ⟨atomic_ofRat _, ofRat_valid _⟩

/-- Another name is looked up behind the field. -/
theorem textProperty_other (other : units wanted ≠ units name) :
    textProperty (.object (plainFields (dataField toValue name field ++ rest))) wanted =
      textProperty (.object (plainFields rest)) wanted := by
  have differs : (units wanted == units name) = false := beq_false_of_ne other
  cases field with
  | undefined => rfl
  | null | value => simp only [textProperty, dataField, plainFields, List.singleton_append, List.map_cons,
      List.lookup_cons, differs]

/-- A text is read as it was written, and nothing where there is none. -/
theorem textProperty_self (last : textProperty (.object (plainFields rest)) name = none) {field : EventBus.Field String} :
    textProperty (.object (plainFields (dataField textValue name field ++ rest))) name = field.value? := by
  cases field with
  | undefined => exact last
  | null => simp only [textProperty, dataField, plainFields, List.singleton_append, List.map_cons, List.lookup_cons_self,
      Value.plain, EventBus.Field.value?]
  | value text => simp only [textProperty, dataField, textValue, plainFields, List.singleton_append, List.map_cons,
      List.lookup_cons_self, Value.plain, EventBus.Field.value?, decodeUnits_units]

end Fields

theorem dataFields_ordered (event : EventBus.LiveEvent) : Ordered ((dataFields event).map Prod.fst) := by
  have among : ((dataFields event).map Prod.fst).Sublist [units "eventType", units "orgId", units "issueId"] := by
    rw [dataFields, List.map_append, List.map_append]
    exact dataField_names.append (dataField_names.append dataField_names)
  have distinct : [units "eventType", units "orgId", units "issueId"].Nodup := by decide
  refine ordered_words (distinct.sublist among) ?_
  intro name member
  have named := among.subset member
  simp only [List.mem_cons, List.not_mem_nil, or_false] at named
  rcases named with rfl | rfl | rfl <;> exact rank_word (by decide)

/-- The fields are texts, numbers and `null`. -/
theorem dataFields_each (event : EventBus.LiveEvent) : ∀ field ∈ dataFields event, Atomic field.2 ∧ field.2.Valid := by
  intro field member
  rcases List.mem_append.mp member with type | others
  · exact dataField_each textValue_atomic field type
  · rcases List.mem_append.mp others with org | issue
    · exact dataField_each textValue_atomic field org
    · exact dataField_each numberValue_atomic field issue

theorem parse_data (event : EventBus.LiveEvent) :
    parse (stringify (.object (dataFields event))) = some (.object (plainFields (dataFields event))) :=
  parse_stringify_flat (fun field member => (dataFields_each event field member).1) (dataFields_ordered event)

theorem handleEvent_eventFrame (state : CapState) (type : List Char) :
    handleEvent state ⟨type, (stringify (.object (dataFields event))).toList⟩ = updateCounts state (shown event) := by
  have last (wanted : String) (other : units wanted ≠ units "issueId") :
      textProperty (.object (plainFields (dataField numberValue "issueId" event.issueId))) wanted = none := by
    have behind := @textProperty_other _ numberValue _ _ event.issueId [] other
    rwa [List.append_nil] at behind
  have kind : textProperty (.object (plainFields (dataFields event))) "eventType" = event.eventType.value? := by
    refine textProperty_self ?_
    rw [textProperty_other (by decide)]
    exact last "eventType" (by decide)
  have org : textProperty (.object (plainFields (dataFields event))) "orgId" = event.orgId.value? := by
    rw [dataFields, textProperty_other (by decide)]
    exact textProperty_self (last "orgId" (by decide))
  rw [handleEvent, String.ofList_toList, parse_data]
  simp only [kind, org, shown]

/-- Every type that is sent has a listener. -/
theorem onMessage_eventFrame (state : CapState) :
    onMessage state ⟨(typeText event.type).toList, (stringify (.object (dataFields event))).toList⟩ =
      updateCounts state (shown event) := by
  have listens : String.ofList (typeText event.type).toList ∈ listened := by
    rw [String.ofList_toList]
    cases event.type <;> decide
  rw [onMessage, if_pos listens, handleEvent_eventFrame]

theorem typeText_plain (type : LiveEventType) : (typeText type).toList ≠ [] ∧ Printable (typeText type).toList := by
  cases type <;> decide

theorem eventFrame_plain (event : EventBus.LiveEvent) : (eventFrame event).Plain := by
  have one_line {text : List Char} (printable : Printable text) : OneLine text := by
    intro c member
    have visible := printable c member
    constructor
    · rintro rfl
      exact absurd visible (by decide)
    · rintro rfl
      exact absurd visible (by decide)
  have valid : (Value.object (dataFields event)).Valid :=
    .object (dataFields_ordered event) fun field member => (dataFields_each event field member).2
  have body : (stringify (.object (dataFields event))).toList = JsonText.write (.object (dataFields event)) :=
    String.toList_ofList
  refine ⟨(typeText_plain event.type).1, one_line (typeText_plain event.type).2, one_line ?_⟩
  rw [body]
  exact printable_write valid

/-- What was written to a response, frame by frame. -/
def Carries (response : StreamResponse) (events : List EventBus.LiveEvent) : Prop :=
  ∃ frames : List Frame, response.written = frames.flatMap Frame.text ∧ (∀ frame ∈ frames, frame.Plain) ∧
    frames.filterMap Frame.message? = events.filterMap fun event => (eventFrame event).message?

theorem Carries.write {events : List EventBus.LiveEvent} (carries : Carries response events) {frame : Frame}
    (plain : frame.Plain) (more : List EventBus.LiveEvent)
    (same : frame.message?.toList = more.filterMap fun event => (eventFrame event).message?) :
    Carries { response with written := response.written ++ frame.text } (events ++ more) := by
  obtain ⟨frames, written, each, messages⟩ := carries
  refine ⟨frames ++ [frame], ?_, ?_, ?_⟩
  · rw [List.flatMap_append, List.flatMap_singleton, written]
  · intro other member
    rcases List.mem_append.mp member with old | new
    · exact each other old
    · rwa [List.mem_singleton.mp new]
  · rw [List.filterMap_append, List.filterMap_append, messages, ← same]
    cases frame <;> rfl

theorem heartbeat_plain : (Frame.comment " heartbeat".toList).Plain := by
  have one_line : OneLine " heartbeat".toList := by decide
  exact one_line

theorem connected_carries : Carries ⟨(Frame.comment " connected".toList).text, true⟩ [] := by
  refine ⟨[.comment " connected".toList], by simp, ?_, rfl⟩
  intro frame member
  have one_line : OneLine " connected".toList := by decide
  rw [List.mem_singleton.mp member]
  exact one_line

/-- What a step does to a response and hands to it. -/
theorem step_carries {events : List EventBus.LiveEvent} {s : ServerStep} (there : responses[k]? = some response)
    (carries : Carries response events) : ∃ next, (serverStep responses s)[k]? = some next ∧
      Carries next (events ++ (handed k responses s).toList) := by
  cases s with
  | stream =>
    refine ⟨response, ?_, by simpa [handed] using carries⟩
    rw [serverStep, List.getElem?_append_left (List.getElem?_eq_some_iff.mp there).1, there]
  | heartbeat index =>
    have quiet : events ++ (handed k responses (.heartbeat index)).toList = events := List.append_nil events
    rw [serverStep, List.getElem?_modify, there, quiet]
    refine ⟨_, rfl, ?_⟩
    split
    · dsimp only [StreamResponse.write]
      split
      · have more := carries.write heartbeat_plain [] rfl
        rwa [List.append_nil] at more
      · exact carries
    · exact carries
  | publish event =>
    rw [serverStep, List.getElem?_map, there]
    refine ⟨_, rfl, ?_⟩
    rw [handed, there, Option.any_some]
    dsimp only [StreamResponse.write]
    split
    · exact carries.write (eventFrame_plain event) [event] rfl
    · rwa [Option.toList_none, List.append_nil]
  | close index =>
    have quiet : events ++ (handed k responses (.close index)).toList = events := List.append_nil events
    rw [serverStep, List.getElem?_modify, there, quiet]
    refine ⟨_, rfl, ?_⟩
    split <;> exact carries

theorem step_opens {s : ServerStep} (absent : responses[k]? = none) : handed k responses s = none ∧
    ∀ next, (serverStep responses s)[k]? = some next → Carries next [] := by
  refine ⟨?_, ?_⟩
  · cases s with
    | publish event => rw [handed, absent, Option.any_none]; rfl
    | stream | heartbeat | close => rfl
  · intro next opened
    cases s with
    | stream =>
      have inside := (List.getElem?_eq_some_iff.mp opened).1
      rw [serverStep, List.length_append, List.length_singleton] at inside
      obtain rfl : k = responses.length := by
        have beyond := List.getElem?_eq_none_iff.mp absent
        omega
      rw [serverStep, List.getElem?_concat_length] at opened
      cases opened
      exact connected_carries
    | heartbeat index =>
      rw [serverStep, List.getElem?_modify, absent] at opened
      cases opened
    | publish event =>
      rw [serverStep, List.getElem?_map, absent] at opened
      cases opened
    | close index =>
      rw [serverStep, List.getElem?_modify, absent] at opened
      cases opened

/-- Each response carries exactly what was handed to it. -/
theorem exec_carries (steps : List ServerStep) :
    ((Run.exec serverStep [] steps)[k]? = none → Run.observed serverStep (handed k) [] steps = []) ∧
      ∀ response, (Run.exec serverStep [] steps)[k]? = some response →
        Carries response (Run.observed serverStep (handed k) [] steps) := by
  induction steps using List.reverseRecOn with
  | nil => exact ⟨fun _ => rfl, nofun⟩
  | append_singleton steps s ih =>
    rw [Run.exec_concat, Run.observed_concat]
    cases before : (Run.exec serverStep [] steps)[k]? with
    | none =>
      obtain ⟨nothing, opens⟩ := @step_opens _ _ s before
      rw [ih.1 before, nothing]
      exact ⟨fun _ => rfl, opens⟩
    | some response =>
      obtain ⟨next, there, carries⟩ := @step_carries _ _ _ _ s before (ih.2 response before)
      rw [there]
      refine ⟨nofun, ?_⟩
      rintro _ ⟨⟩
      exact carries

/-- A provider that reads part of a response takes up the first of the events it carries. -/
theorem Carries.received {events : List EventBus.LiveEvent} (carries : Carries response events) {part : List Char}
    (state : CapState) (come : part <+: response.written) :
    ∃ seen, seen <+: events ∧ received state part = (seen.map shown).foldl updateCounts state ∧
      (part = response.written → seen = events) := by
  obtain ⟨frames, written, plain, messages⟩ := carries
  have all := read_frames plain
  rw [← written, messages] at all
  have texts : (events.filterMap fun event => (eventFrame event).message?) = events.map fun event =>
      ⟨(typeText event.type).toList, (stringify (.object (dataFields event))).toList⟩ :=
    congrFun List.filterMap_eq_map events
  have first := read_prefix Reader.start come
  rw [all, texts] at first
  have taken := List.prefix_iff_eq_take.mp first
  obtain ⟨n, length⟩ : ∃ n, (Reader.start.read part).2.length = n := ⟨_, rfl⟩
  rw [length, ← List.map_take] at taken
  refine ⟨events.take n, List.take_prefix _ _, ?_, ?_⟩
  · rw [LiveStream.received, taken, List.foldl_map, List.foldl_map]
    simp only [onMessage_eventFrame]
  · rintro rfl
    rw [← length, all, texts, List.length_map]
    exact List.take_length

/-- Whatever part of a response has come in, the provider has taken up the first of the events that were published
while the response was subscribed, as they were published; it has taken up all of them once all has come in. -/
theorem stream_reaches_provider {steps : List ServerStep} {part : List Char} (state : CapState)
    (there : (Run.exec serverStep [] steps)[k]? = some response) (come : part <+: response.written) :
    ∃ seen, seen <+: Run.observed serverStep (handed k) [] steps ∧
      received state part = (seen.map shown).foldl updateCounts state ∧
      (part = response.written → seen = Run.observed serverStep (handed k) [] steps) :=
  ((exec_carries steps).2 response there).received state come

/-- A provider connects, an application and a heartbeat come, and it reads the whole response. -/
def sampleSteps : List ServerStep :=
  [.stream, .publish ⟨.applicationCreated, .value "applied", .value "acme", .value 7⟩, .heartbeat 0,
    .publish ⟨.assignmentCreated, .value "assigned", .value "acme", .value 7⟩,
    .publish ⟨.capUpdated, .undefined, .undefined, .undefined⟩, .close 0,
    .publish ⟨.applicationCreated, .value "applied", .null, .null⟩]

theorem sample_reaches_provider : ∃ response, (Run.exec serverStep [] sampleSteps)[0]? = some response ∧
    received initialState response.written = ⟨0, [⟨"acme", 1⟩]⟩ := by
  refine ⟨_, rfl, ?_⟩
  obtain ⟨seen, _, reached, all⟩ := @stream_reaches_provider _ 0 sampleSteps _ initialState rfl List.prefix_rfl
  rw [reached, all rfl]
  decide

end Proofs

end LiveStream

end WorkloadGovernor
