import ScreenFlow.Flow

namespace ScreenFlow

/-! How a renderer reads a flow document. It takes from the record of each screen the id, the names
of the declared data, and the action of the footer, which is the last child of the form; what it
hands on is written as expressions. -/

namespace Value

def member? (key : Text) : Value → Option Value
  | .map entries => lookup? key entries
  | _ => none

def items? : Value → Option (List Value)
  | .list items => some items
  | _ => none

def flag? : Value → Option Bool
  | .bool flag => some flag
  | _ => none

/-- The entries of a mapping in order, if its keys are texts and its values can be read. -/
def table? (read? : Value → Option α) : Value → Option (List (Text × α))
  | .map entries => entries.mapM fun (key, value) => do return (← key.text?, ← read? value)
  | _ => none

/-- What is read in each record of a document, in order. -/
def records? (read? : Value → Option α) (document : Value) : Option (List α) := do
  (← (← document.member? "screens").items?).mapM read?

end Value

/-! ## Expressions -/

namespace Reference

def enclosed? (opening text : Text) : Option Text :=
  if opening.toList.isPrefixOf text.toList then
    let rest := text.toList.drop opening.length
    if rest.getLast? = some (.char '\x7d') then some ⟨rest.dropLast⟩ else none
  else none

def ofText? (text : Text) : Option Reference :=
  ((enclosed? "$\x7bform." text).map .form).or ((enclosed? "$\x7bdata." text).map .data)

theorem enclosed?_append (opening key : Text) :
    enclosed? opening (opening ++ key ++ "\x7d") = some key := by
  have closing : (Text.ofString "\x7d").toList = [.char '\x7d'] := rfl
  simp [enclosed?, closing, Text.length, List.append_assoc]

theorem enclosed?_data (key : Text) : enclosed? "$\x7bform." ("$\x7bdata." ++ key) = none := by
  have other : (Text.ofString "$\x7bform.").toList.isPrefixOf
      ((Text.ofString "$\x7bdata.").toList ++ key.toList) = false := rfl
  rw [enclosed?, Text.toList_append, other]
  rfl

theorem ofText?_render (reference : Reference) : ofText? reference.render = some reference := by
  cases reference with
  | form key =>
      rw [ofText?, render, enclosed?_append]
      rfl
  | data key =>
      rw [ofText?, render, enclosed?_append, Text.append_assoc, enclosed?_data]
      rfl

theorem render_injective {first second : Reference} (equal : first.render = second.render) :
    first = second := by
  have read := congrArg ofText? equal
  rw [ofText?_render, ofText?_render] at read
  exact Option.some.inj read

end Reference

/-! ## Records -/

/-- What a renderer reads in the record of a screen. -/
structure Page where
  id : Text
  declared : List Text
  next : Option Text
  payload : List (Text × Text)
  deriving DecidableEq, Repr

namespace Page

def next? (action : Value) : Option (Option Text) := do
  let name ← (← action.member? "name").text?
  if name = "complete" then return none
  else if name = "navigate" then
    return some (← (← (← action.member? "next").member? "name").text?)
  else none

def action? (record : Value) : Option Value := do
  let form ← (← (← (← record.member? "layout").member? "children").items?).head?
  let footer ← (← (← form.member? "children").items?).getLast?
  footer.member? "on-click-action"

def children? (record : Value) : Option (List Value) := do
  let form ← (← (← (← record.member? "layout").member? "children").items?).head?
  (← form.member? "children").items?

def ofValue? (record : Value) : Option Page := do
  let id ← (← record.member? "id").text?
  let declared ← (← record.member? "data").table? some
  let action ← action? record
  let payload ← (← action.member? "payload").table? Value.text?
  return { id, declared := Ordered.keys declared, next := ← next? action, payload }

def ofDocument? (document : Value) : Option (List Page) := do
  (← (← document.member? "screens").items?).mapM ofValue?

end Page

namespace Action

def next? : Action → Option Text
  | .navigate next _ => some next
  | .complete _ => none

end Action

namespace ScreenRecord

def page (record : ScreenRecord) : Page :=
  { id := record.id, declared := Ordered.keys record.data, next := record.action.next?
    payload := record.action.payload.map fun entry => (entry.1, entry.2.render) }

end ScreenRecord

namespace Page

theorem mapM_of_reads {write : α → γ} {read? : γ → Option β} {result : α → β}
    (reads : ∀ item, read? (write item) = some (result item)) (items : List α) :
    (items.map write).mapM read? = some (items.map result) := by
  rw [List.mapM_map, Function.comp_def]
  simp only [reads]
  exact List.mapM_pure

theorem table?_tableValue {toValue : α → Value} {read? : Value → Option β} {result : α → β}
    (reads : ∀ value, read? (toValue value) = some (result value)) (table : List (Text × α)) :
    (tableValue toValue table).table? read? =
      some (table.map fun entry => (entry.1, result entry.2)) := by
  refine mapM_of_reads (fun entry => ?_) table
  simp [field, Value.text?, reads]

theorem next?_action (action : Action) : next? action.toValue = some action.next? := by
  cases action <;>
    simp [next?, Action.toValue, Action.next?, Value.member?, Value.lookup?, field, Value.text?]

theorem payload_action (action : Action) :
    action.toValue.member? "payload" =
      some (tableValue Reference.toValue action.payload) := by
  cases action <;>
    simp [Action.toValue, Action.payload, Value.member?, Value.lookup?, field, Value.text?]

theorem id_record (record : ScreenRecord) :
    record.toValue.member? "id" = some (.text record.id) := by
  simp [ScreenRecord.toValue, Value.member?, Value.lookup?, field, Value.text?]

theorem data_record (record : ScreenRecord) :
    record.toValue.member? "data" = some (tableValue Placeholder.toValue record.data) := by
  simp [ScreenRecord.toValue, Value.member?, Value.lookup?, field, Value.text?]

theorem action?_record (record : ScreenRecord) :
    action? record.toValue = some record.action.toValue := by
  simp [action?, ScreenRecord.toValue, ScreenRecord.footerValue, Value.member?, Value.lookup?,
    Value.items?, field, Value.text?]

theorem children?_record (record : ScreenRecord) :
    children? record.toValue =
      some (record.widgets.map Widget.toValue ++ [record.footerValue]) := by
  simp [children?, ScreenRecord.toValue, Value.member?, Value.lookup?, Value.items?, field,
    Value.text?]

theorem ofValue?_record (record : ScreenRecord) : ofValue? record.toValue = some record.page := by
  have declared : (tableValue Placeholder.toValue record.data).table? some =
      some (record.data.map fun entry => (entry.1, entry.2.toValue)) :=
    table?_tableValue (fun _ => rfl) record.data
  have payload : (tableValue Reference.toValue record.action.payload).table? Value.text? =
      some (record.action.payload.map fun entry => (entry.1, entry.2.render)) :=
    @table?_tableValue _ _ Reference.toValue _ Reference.render (fun _ => rfl) _
  simp only [ofValue?, id_record, data_record, action?_record, payload_action, next?_action,
    declared, payload, Value.text?, Option.bind_eq_bind, Option.bind_some, ScreenRecord.page]
  simp [Ordered.keys, Function.comp_def]

theorem records?_toValue {read? : Value → Option α} {result : ScreenRecord → α}
    (reads : ∀ record : ScreenRecord, read? record.toValue = some (result record))
    (document : FlowDocument) :
    document.toValue.records? read? = some (document.screens.map result) := by
  have screens : document.toValue.member? "screens" =
      some (.list (document.screens.map ScreenRecord.toValue)) := by
    simp [FlowDocument.toValue, Value.member?, Value.lookup?, field, Value.text?]
  simp only [Value.records?, screens, Value.items?, Option.bind_eq_bind, Option.bind_some]
  exact mapM_of_reads reads document.screens

theorem ofDocument?_toValue (document : FlowDocument) :
    ofDocument? document.toValue = some (document.screens.map ScreenRecord.page) :=
  records?_toValue ofValue?_record document

end Page

end ScreenFlow
