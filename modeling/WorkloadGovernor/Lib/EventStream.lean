import Mathlib.Data.List.Basic

namespace EventStream

section Reader

/-- A message that is dispatched: its type and its data. -/
structure Message where
  type : List Char
  data : List Char
  deriving DecidableEq, Repr

/-- What a reader has of the line it is in and of the message it is in; `cut` is whether the last character was a
carriage return. -/
structure Reader where
  line : List Char
  type : List Char
  data : List Char
  cut : Bool
  deriving DecidableEq, Repr

def Reader.start : Reader := ⟨[], [], [], false⟩

/-- The name of a field and its value, without the space behind the colon. -/
def field (line : List Char) : List Char × List Char :=
  match line.dropWhile (· ≠ ':') with
  | [] => (line, [])
  | _ :: ' ' :: value => (line.takeWhile (· ≠ ':'), value)
  | _ :: value => (line.takeWhile (· ≠ ':'), value)

/-- At the end of a line the field is noted; an empty line dispatches the message if it has data. -/
def Reader.endLine (reader : Reader) (cut : Bool) : Reader × Option Message :=
  match reader.line with
  | [] =>
    (⟨[], [], [], cut⟩,
      if reader.data = [] then none
      else some ⟨if reader.type = [] then ['m', 'e', 's', 's', 'a', 'g', 'e'] else reader.type, reader.data.dropLast⟩)
  | c :: rest =>
    let (name, value) := field (c :: rest)
    if name = ['e', 'v', 'e', 'n', 't'] then (⟨[], value, reader.data, cut⟩, none)
    else if name = ['d', 'a', 't', 'a'] then (⟨[], reader.type, reader.data ++ value ++ ['\n'], cut⟩, none)
    else (⟨[], reader.type, reader.data, cut⟩, none)

/-- A line ends with a line feed, a carriage return or both. -/
def Reader.feed (reader : Reader) (c : Char) : Reader × Option Message :=
  if c = '\n' then if reader.cut then ({ reader with cut := false }, none) else reader.endLine false
  else if c = '\r' then reader.endLine true
  else ({ reader with line := reader.line ++ [c], cut := false }, none)

/-- The state of a reader after a text, and the messages it has dispatched. -/
def Reader.read : Reader → List Char → Reader × List Message
  | reader, [] => (reader, [])
  | reader, c :: text =>
    let next := reader.feed c
    let later := next.1.read text
    (later.1, next.2.toList ++ later.2)

end Reader

section Writer

/-- What is written to a stream: a message, or a comment. -/
inductive Frame where
  | message (message : Message)
  | comment (text : List Char)
  deriving DecidableEq, Repr

def Frame.text : Frame → List Char
  | .message m =>
    ['e', 'v', 'e', 'n', 't', ':', ' '] ++ m.type ++ ['\n', 'd', 'a', 't', 'a', ':', ' '] ++ m.data ++ ['\n', '\n']
  | .comment text => [':'] ++ text ++ ['\n', '\n']

def Frame.message? : Frame → Option Message
  | .message m => some m
  | .comment _ => none

/-- Text without an end of line. -/
def OneLine (text : List Char) : Prop := ∀ c ∈ text, c ≠ '\n' ∧ c ≠ '\r'

instance (text : List Char) : Decidable (OneLine text) :=
  decidable_of_iff (text.all (fun c => decide (c ≠ '\n' ∧ c ≠ '\r')) = true)
    (List.all_eq_true.trans (forall₂_congr fun _ _ => decide_eq_true_iff))

def Frame.Plain : Frame → Prop
  | .message m => m.type ≠ [] ∧ OneLine m.type ∧ OneLine m.data
  | .comment text => OneLine text

end Writer

section Proofs
variable {reader : Reader} {text first second : List Char} {frame : Frame} {frames : List Frame}

theorem read_append (reader : Reader) (first second : List Char) : reader.read (first ++ second) =
    (((reader.read first).1.read second).1, (reader.read first).2 ++ ((reader.read first).1.read second).2) := by
  induction first generalizing reader with
  | nil => rfl
  | cons c first ih => simp only [List.cons_append, Reader.read, ih, List.append_assoc]

/-- What comes later takes no message back. -/
theorem read_prefix (reader : Reader) (before : first <+: second) : (reader.read first).2 <+: (reader.read second).2 := by
  obtain ⟨rest, rfl⟩ := before
  rw [read_append]
  exact List.prefix_append _ _

theorem read_line (plain : OneLine text) (whole : reader.cut = false) :
    reader.read text = ({ reader with line := reader.line ++ text }, []) := by
  induction text generalizing reader with
  | nil => rw [Reader.read, List.append_nil]
  | cons c text ih =>
    obtain ⟨feed, carriage⟩ := plain c List.mem_cons_self
    have rest : OneLine text := fun d member => plain d (List.mem_cons_of_mem _ member)
    have step : reader.feed c = ({ reader with line := reader.line ++ [c] }, none) := by
      rw [Reader.feed, if_neg feed, if_neg carriage, whole]
    have later := @ih { reader with line := reader.line ++ [c] } rest whole
    rw [Reader.read, step]
    simp only [later, List.append_assoc, List.singleton_append, Option.toList_none, List.append_nil]

/-- A line and its end, read from its start. -/
theorem read_whole_line (plain : OneLine text) (whole : reader.cut = false) (fresh : reader.line = []) :
    reader.read (text ++ ['\n']) =
      ((({ reader with line := text } : Reader).endLine false).1,
        (({ reader with line := text } : Reader).endLine false).2.toList) := by
  have line := read_line plain whole
  rw [fresh, List.nil_append] at line
  have ended : ({ reader with line := text } : Reader).feed '\n' = ({ reader with line := text } : Reader).endLine false := by
    rw [Reader.feed, if_pos rfl]
    simp [whole]
  rw [read_append, line, Reader.read, Reader.read, ended]
  simp

theorem read_blank (fresh : reader.line = []) (whole : reader.cut = false) : reader.read ['\n'] =
    ((reader.endLine false).1, (reader.endLine false).2.toList) := by
  have blank : ({ reader with line := [] } : Reader) = reader := by
    rw [← fresh]
  have line := read_whole_line (fun c member => absurd member List.not_mem_nil) whole fresh
  rwa [List.nil_append, blank] at line

theorem oneLine_append (plain : OneLine first) (more : OneLine second) : OneLine (first ++ second) := by
  intro c member
  rcases List.mem_append.mp member with inside | inside
  · exact plain c inside
  · exact more c inside

theorem endLine_event (reader : Reader) (value : List Char) :
    ({ reader with line := ['e', 'v', 'e', 'n', 't', ':', ' '] ++ value } : Reader).endLine false =
      (⟨[], value, reader.data, false⟩, none) := by
  simp [Reader.endLine, field]

theorem endLine_data (reader : Reader) (value : List Char) :
    ({ reader with line := ['d', 'a', 't', 'a', ':', ' '] ++ value } : Reader).endLine false =
      (⟨[], reader.type, reader.data ++ value ++ ['\n'], false⟩, none) := by
  simp [Reader.endLine, field]

theorem endLine_comment (reader : Reader) (text : List Char) :
    ({ reader with line := [':'] ++ text } : Reader).endLine false =
      (⟨[], reader.type, reader.data, false⟩, none) := by
  have nameless : (field ([':'] ++ text)).1 = [] := by
    cases text with
    | nil => rfl
    | cons c text =>
      by_cases space : c = ' '
      · rw [space]
        rfl
      · simp [field, space]
  simp only [List.singleton_append] at nameless
  simp [Reader.endLine, nameless]

theorem read_message {m : Message} (typed : m.type ≠ []) (plain : OneLine m.type) (single : OneLine m.data) :
    Reader.start.read (Frame.message m).text = (.start, [m]) := by
  have text : (Frame.message m).text = (['e', 'v', 'e', 'n', 't', ':', ' '] ++ m.type ++ ['\n']) ++
      ((['d', 'a', 't', 'a', ':', ' '] ++ m.data ++ ['\n']) ++ ['\n']) := by
    simp [Frame.text]
  have noted : Reader.start.read (['e', 'v', 'e', 'n', 't', ':', ' '] ++ m.type ++ ['\n']) =
      (⟨[], m.type, [], false⟩, []) := by
    have label : OneLine ['e', 'v', 'e', 'n', 't', ':', ' '] := by
      decide
    rw [read_whole_line (oneLine_append label plain) rfl rfl, endLine_event]
    rfl
  have filled : (⟨[], m.type, [], false⟩ : Reader).read (['d', 'a', 't', 'a', ':', ' '] ++ m.data ++ ['\n']) =
      (⟨[], m.type, m.data ++ ['\n'], false⟩, []) := by
    have label : OneLine ['d', 'a', 't', 'a', ':', ' '] := by
      decide
    rw [read_whole_line (oneLine_append label single) rfl rfl, endLine_data]
    rfl
  have sent : (⟨[], m.type, m.data ++ ['\n'], false⟩ : Reader).read ['\n'] = (.start, [m]) := by
    rw [read_blank rfl rfl]
    simp [Reader.endLine, Reader.start, typed]
  rw [text, read_append, noted, read_append, filled, sent]
  rfl

theorem read_comment (plain : OneLine text) : Reader.start.read (Frame.comment text).text = (.start, []) := by
  have split : (Frame.comment text).text = ([':'] ++ text ++ ['\n']) ++ ['\n'] := by
    simp [Frame.text]
  have ignored : Reader.start.read ([':'] ++ text ++ ['\n']) = (.start, []) := by
    have label : OneLine [':'] := by
      decide
    rw [read_whole_line (oneLine_append label plain) rfl rfl, endLine_comment]
    rfl
  rw [split, read_append, ignored, read_blank rfl rfl]
  rfl

/-- A reader dispatches exactly the messages that are written, and is back where it began. -/
theorem read_frames (plain : ∀ frame ∈ frames, frame.Plain) :
    Reader.start.read (frames.flatMap Frame.text) = (.start, frames.filterMap Frame.message?) := by
  induction frames with
  | nil => rfl
  | cons frame frames ih =>
    obtain ⟨first, rest⟩ := List.forall_mem_cons.mp plain
    have one : Reader.start.read frame.text = (.start, frame.message?.toList) := by
      cases frame with
      | message m => exact read_message first.1 first.2.1 first.2.2
      | comment text => exact read_comment first
    rw [List.flatMap_cons, read_append, one, ih rest]
    cases frame <;> rfl

end Proofs

end EventStream
