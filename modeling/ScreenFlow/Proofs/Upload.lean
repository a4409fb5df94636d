import ScreenFlow.Proofs.Documents
import ScreenFlow.Proofs.Encoding
import ScreenFlow.Proofs.RoundTrip
import ScreenFlow.Proofs.Saying

namespace ScreenFlow

/-! Uploading a form and uploading the document compiled from it. The file that a compilation leaves
is read back value for value and recognized as a flow document, so its bytes are sent as they are;
they are the bytes that the client makes of the compiled form. -/

open Outcome

/-! ## Bytes of documents -/

namespace FlowDocument

variable {document : FlowDocument} {text : Text}

theorem exists_begins_of_toJson (worded : document.toJson = .ok text) :
    ∃ rest, text.toList = .char '\x7b' :: .char '\n' :: rest := by
  rcases map_eq_ok.mp worded with ⟨written, succeeded, rfl⟩
  rcases (Json.writeAt_map_eq_ok_iff rfl).mp succeeded with ⟨rows, -, joined, rfl⟩
  rcases Json.exists_legible_of_writeEntries rfl 1 _ (absurd · (by decide)) rows
    joined with ⟨texts, rfl, legible⟩
  cases legible with
  | cons first others =>
      rw [Json.Layout.enclose_ahead, Text.toList_ofList]
      exact ⟨_, rfl⟩

theorem readBytes_of_toJson {string : String} (worded : document.toJson = .ok string) :
    Json.readBytes (Text.Utf8.encode string) = .ok (Json.echo document.toValue) := by
  rcases exists_begins_of_toJson worded with ⟨rest, begins⟩
  rcases List.map_eq_cons_iff.mp begins with ⟨first, others, split, opening, begins⟩
  rcases List.map_eq_cons_iff.mp begins with ⟨second, others, rfl, newline, -⟩
  rcases Point.char.inj opening with rfl
  rcases Point.char.inj newline with rfl
  rw [Json.readBytes_encode split (by decide) (by decide) (by decide) (by decide),
    Json.read_echo rfl (absurd · (by decide)) worded]
  rfl

end FlowDocument

namespace Command

open Session

theorem isFlowDocument_echo (document : FlowDocument) :
    isFlowDocument (Json.echo document.toValue) = true := by
  have layouts : ∀ record : ScreenRecord,
      isFlowDocument.hasLayout (Json.echo record.toValue) = true := by
    intro record
    rw [ScreenRecord.toValue, Json.echo_map (by simp [field, Value.text?]) (by simp [field])]
    simp [isFlowDocument.hasLayout, Value.lookup?, field, Value.text?]
  rw [FlowDocument.toValue, Json.echo_map (by simp [field, Value.text?]) (by simp [field])]
  simp [isFlowDocument, Value.lookup?, field, Value.text?, Json.echo, Json.echoAll_eq_map, layouts]

theorem holdsFlowDocument_of_toJson {document : FlowDocument} {text : String}
    (worded : document.toJson = .ok text) :
    holdsFlowDocument (Text.Utf8.encode text) = .ok true := by
  rw [holdsFlowDocument, FlowDocument.readBytes_of_toJson worded]
  exact congrArg Except.ok (isFlowDocument_echo document)

/-! ## What is sent -/

section Sending

variable {policy : Log.Policy} {settings : Settings} {boundary : String} {reply : Http.Reply}

end Sending

/-! ## Commands -/

variable {means : Means} {policy : Log.Policy} {session later : Session} {path : String}
  {content : List UInt8}

theorem run_assetOf_eq_ok (there : session.files.read path = .ok content)
    {asset : Platform.Asset} :
    (assetOf policy path).run session = .ok asset later ↔
      (holdsFlowDocument content = .ok true ∧ asset = .bytes content ∧ session = later) ∨
        (holdsFlowDocument content = .ok false ∧ ∃ flow,
          (compile policy path).run session = .ok flow later ∧
            asset = .document flow.document.toValue) := by
  have opened : (assetOf policy path).run session =
      (orEscape (holdsFlowDocument content) >>= fun held =>
        if held then pure (Platform.Asset.bytes content)
        else do return .document (← compile policy path).document.toValue).run session := by
    rw [assetOf, run_get_bind, there]
    rfl
  rw [opened]
  constructor
  · intro ran
    rcases run_bind_eq_ok.mp ran with ⟨held, between, escaped, ran⟩
    rcases run_orEscape_eq_ok.mp escaped with ⟨classified, rfl⟩
    cases held with
    | true =>
        cases ran
        exact .inl ⟨classified, rfl, rfl⟩
    | false =>
        rcases run_bind_eq_ok.mp ran with ⟨flow, after, compiled, ran⟩
        cases ran
        exact .inr ⟨classified, flow, compiled, rfl⟩
  · intro given
    rcases given with ⟨classified, rfl, rfl⟩ | ⟨classified, flow, compiled, rfl⟩
    · exact run_bind_of_ok (run_orEscape_eq_ok.mpr ⟨classified, rfl⟩)
    · rw [run_bind_of_ok (run_orEscape_eq_ok.mpr ⟨classified, rfl⟩)]
      exact run_bind_of_ok compiled

section BothWays

variable {schema : Schema} {flow : CompiledFlow} {target : String}

end BothWays

end Command

end ScreenFlow
