import FunctionHost.Proofs.Call.Printing
import FunctionHost.Proofs.Json.Compact
/-!
# What a script says, whatever it is about

The id and the event of a request come from outside, and both are part of what an interpreter is
told to do. They stand in string literals, and a literal has no newline and ends where it was meant
to end. So the statements of a script are its lines (`cutAll_script`), and which text stands in
which of them is beyond doubt.

Main statement: `script_unambiguous`, for a handler on one line a script has six lines, three of
which have one argument that is a literal from its first character to its last, and it is the script
of no other id and no other event. The event itself is read back from the text in its literal.
-/

namespace FunctionHost.Call

open FunctionHost.Text FunctionHost.Json FunctionHost.Marker

section

variable {handler : String}

/-- The statement that calls the handler is on one line if the handler is. -/
theorem newline_notMem_setup (h : '\n' ∉ handler.toList) (text : String) :
    '\n' ∉ ("resp = " ++ handler ++ "(json.loads(" ++ literal text ++ "))").toList := by
  intro hm
  simp only [String.toList_append, List.mem_append] at hm
  rcases hm with (((hm | hm) | hm) | hm) | hm
  · exact absurd hm (by decide)
  · exact h hm
  · exact absurd hm (by decide)
  · exact absurd (le_of_mem_literal hm) (by decide)
  · exact absurd hm (by decide)

/-- Each statement is on one line. -/
theorem newline_notMem_statements (h : '\n' ∉ handler.toList) (requestId text : String) :
    ∀ l ∈ (statements handler requestId text).map String.toList, '\n' ∉ l := by
  intro l hl
  have hsplit : (statements handler requestId text).map String.toList =
      "resp = None".toList ::
        ("resp = " ++ handler ++ "(json.loads(" ++ literal text ++ "))").toList ::
        (prints requestId).map String.toList := rfl
  rw [hsplit, List.mem_cons, List.mem_cons] at hl
  rcases hl with rfl | rfl | hl
  · decide
  · exact newline_notMem_setup h text
  · exact newline_notMem_of_mem_prints requestId l hl

/-- The lines of a script are its statements, and the last of them is ended. -/
theorem cutAll_script (h : '\n' ∉ handler.toList) (requestId : String) (event : Json.Value) :
    cutAll '\n' (script handler requestId event).toList =
      (statements handler requestId event.text).map String.toList ++ [[]] := by
  have hscript : (script handler requestId event).toList =
      ((statements handler requestId event.text).map String.toList).flatMap (· ++ ['\n']) := by
    simp [script, statements]
  rw [hscript]
  exact cutAll_flatMap (newline_notMem_statements h requestId event.text)

end

theorem start_inj {r s : String} (h : start r = start s) : r = s := by
  have hlist := congrArg String.toList h
  simp only [start, String.toList_append, List.append_assoc, List.append_cancel_left_eq,
    List.append_cancel_right_eq] at hlist
  exact String.toList_inj.1 hlist

/-- A script tells the id and the text of the event. -/
theorem statements_inj {handler r s text text' : String}
    (h : statements handler r text = statements handler s text') : r = s ∧ text = text' := by
  simp only [statements, List.cons.injEq, true_and] at h
  obtain ⟨hcall, hstart, -⟩ := h
  have hliteral : literal text = literal text' := by
    have hlist := congrArg String.toList hcall
    simp only [String.toList_append, List.append_assoc, List.append_cancel_left_eq,
      List.append_cancel_right_eq] at hlist
    exact String.toList_inj.1 hlist
  have hmarker : literal (start r) = literal (start s) := by
    have hlist := congrArg String.toList hstart
    simp only [String.toList_append, List.append_assoc, List.append_cancel_left_eq,
      List.append_cancel_right_eq] at hlist
    exact String.toList_inj.1 hlist
  exact ⟨start_inj (literal_inj hmarker), literal_inj hliteral⟩

/-- The script of a handler on one line has six lines, whatever the id and the event are. The second
applies the handler to one literal, which is read as the JSON text of the event, and that as the
event if its numbers are integers of 64 bits; the third and the sixth print one literal each, which
are read as the start and the end marker of the id. Each literal is the whole argument: it ends with
the last character of it, and with none before. A script of the same handler for another id, or for
an event with another text, is another script. -/
theorem script_unambiguous (handler requestId : String) (event : Json.Value)
    (h : '\n' ∉ handler.toList) :
    ∃ a b c : List Char,
      cutAll '\n' (script handler requestId event).toList = [
        "resp = None".toList,
        "resp = ".toList ++ handler.toList ++ "(json.loads(".toList ++ a ++ "))".toList,
        "print(".toList ++ b ++ ")".toList,
        "print(f\"CMD_STATUS_CODE=\x7bresp['status_code']\x7d;\")".toList,
        "print(f\"CMD_OUTPUT_BODY=\x7bresp['body']\x7d\")".toList,
        "print(".toList ++ c ++ ")".toList,
        []] ∧
      IsLiteral a event.text ∧ (Integral event → Json.Value.read? event.text = some event) ∧
      IsLiteral b ("CMD_OUTPUT_START=" ++ requestId ++ ";") ∧
      IsLiteral c ("CMD_OUTPUT_END=" ++ requestId ++ ";") ∧
      ∀ requestId' event', script handler requestId' event' = script handler requestId event →
        requestId' = requestId ∧ event'.text = event.text := by
  refine ⟨(literal event.text).toList, (literal (start requestId)).toList,
    (literal (finish requestId)).toList, ?_, isLiteral_literal _, read?_text,
    isLiteral_literal _, isLiteral_literal _, ?_⟩
  · rw [cutAll_script h]
    simp only [statements, List.map_cons, List.map_nil, String.toList_append, List.cons_append,
      List.nil_append]
    rfl
  · intro requestId' event' heq
    have hlines := congrArg (fun s => cutAll '\n' s.toList) heq
    simp only [cutAll_script h, List.append_cancel_right_eq] at hlines
    exact statements_inj ((List.map_injective_iff.2 fun _ _ => String.toList_inj.1) hlines)

/-- An event whose path and an id that would break out of their literals if they were written as
they are. -/
theorem script_unambiguous_breakout :
    let requestId := "r\"); import os\n"
    let event := Json.Value.obj [("path", .str "/\"))\nimport os # \\"), ("port", .int 8080)]
    '\n' ∉ "handler".toList ∧
      (cutAll '\n' (script "handler" requestId event).toList).length = 7 ∧
      Json.Value.read? event.text = some event ∧
      ∀ requestId' event', script "handler" requestId' event' = script "handler" requestId event →
        requestId' = requestId ∧ event'.text = event.text := by
  intro requestId event
  have hhandler : '\n' ∉ "handler".toList := by decide
  have hevent : Integral event := by
    refine .obj fun m hm => ?_
    simp only [List.mem_cons, List.not_mem_nil, or_false] at hm
    rcases hm with rfl | rfl
    · exact .str _
    · exact .int (by decide) (by decide)
  obtain ⟨a, b, c, hlines, -, hread, -, -, hinj⟩ :=
    script_unambiguous "handler" requestId event hhandler
  refine ⟨hhandler, ?_, hread hevent, hinj⟩
  rw [hlines]
  rfl

end FunctionHost.Call
