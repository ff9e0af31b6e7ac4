import FunctionHost.Call.Script
import FunctionHost.Proofs.Json.Literal
import FunctionHost.Proofs.Reply.Stale
import FunctionHost.Proofs.Reply.Transcript
import FunctionHost.Proofs.Text.Pieces
/-!
# What the statements of a call print

The last four statements of a script print the reply. Two of them print a string literal, the start
and the end marker; the other two print a text with one field of the reply put in, the status and
the body (`printed?`). An event and an id stand in literals, which have no newline, so the
statements are the lines of the script whatever the handler's text is (`printStatements_append_script`).

Main statement: `decodes_printed`, a reply that is printed, read as lines from pieces of any size
and decoded is the same reply, complete with the fourth line. Its body may look like any marker but
the end marker of the same request.
-/

namespace FunctionHost.Call

open FunctionHost.Text FunctionHost.Json FunctionHost.Marker FunctionHost.Decoder
open FunctionHost.Output

/-! ### What a statement prints -/

/-- The statements of a script that print the reply: its last four lines. -/
def printStatements (script : String) : List (List Char) :=
  let ls := (cutAll '\n' script.toList).dropLast
  ls.drop (ls.length - 4)

/-- The text of a field of the reply. -/
def fieldText? (r : Reply) (field : List Char) : Option (List Char) :=
  if field = "resp['status_code']".toList then some (decimal r.status.code)
  else if field = "resp['body']".toList then some r.body.toList
  else none

/-- A text with a field of the reply put in between its braces. -/
def fill? (r : Reply) (text : List Char) : Option (List Char) := do
  let (lead, rest) ← cutAt? '\x7b' text
  let (field, tail) ← cutAt? '\x7d' rest
  let value ← fieldText? r field
  return lead ++ value ++ tail

/-- The string that the argument of a print statement stands for: a text with a field of the reply
put in if it begins with an f, and a string literal otherwise. -/
def argumentText? (r : Reply) (argument : List Char) : Option String :=
  match after? "f\"".toList argument with
  | some text => ((before? "\"".toList text).bind (fill? r)).map String.ofList
  | none =>
    match readString? argument with
    | some (s, []) => some s
    | _ => none

/-- The line that a print statement prints. -/
def printed? (r : Reply) (statement : List Char) : Option String :=
  ((after? "print(".toList statement).bind (before? ")".toList)).bind (argumentText? r)

theorem printed?_print (r : Reply) (argument : String) :
    printed? r ("print(" ++ argument ++ ")").toList = argumentText? r argument.toList := by
  rw [printed?, String.toList_append, String.toList_append, List.append_assoc,
    after?_eq_some_iff.2 rfl, Option.bind_some, before?_append, Option.bind_some]

/-- The literal of a text prints the text. -/
theorem argumentText?_literal (r : Reply) (s : String) :
    argumentText? r (literal s).toList = some s := by
  have hread := readString?_literal s []
  have hplain : after? "f\"".toList (literal s).toList = none := by
    rw [toList_literal]
    rfl
  rw [List.append_nil] at hread
  rw [argumentText?, hplain, hread]

/-- A text with a field prints the text with the value of the field in its place. -/
theorem argumentText?_field {r : Reply} {lead field value tail : List Char}
    (hlead : '\x7b' ∉ lead) (hfield : '\x7d' ∉ field) (hvalue : fieldText? r field = some value) :
    argumentText? r ("f\"".toList ++ (lead ++ '\x7b' :: (field ++ '\x7d' :: tail)) ++ "\"".toList) =
      some (String.ofList (lead ++ value ++ tail)) := by
  have hfill : fill? r (lead ++ '\x7b' :: (field ++ '\x7d' :: tail)) =
      some (lead ++ value ++ tail) := by
    rw [fill?, cutAt?_append hlead]
    dsimp only [Option.bind_eq_bind, Option.bind_some]
    rw [cutAt?_append hfield]
    dsimp only [Option.bind_some]
    rw [hvalue]
    rfl
  rw [argumentText?, List.append_assoc, after?_eq_some_iff.2 rfl]
  dsimp only
  rw [before?_append, Option.bind_some, hfill, Option.map_some]

/-- The third statement prints the status line. -/
theorem printed?_status (r : Reply) :
    printed? r ("print(f\"" ++ statusTag ++ "\x7bresp['status_code']\x7d;\")").toList =
      some (statusLine r.status) := by
  have hargument : "print(f\"" ++ statusTag ++ "\x7bresp['status_code']\x7d;\")" =
      "print(" ++ String.ofList ("f\"".toList ++ (statusTag.toList ++
        '\x7b' :: ("resp['status_code']".toList ++ '\x7d' :: ";".toList)) ++ "\"".toList) ++ ")" := by
    decide +kernel
  rw [hargument, printed?_print, String.toList_ofList,
    argumentText?_field (by decide) (by decide) (if_pos rfl), statusLine, String.ofList_append,
    String.ofList_append, String.ofList_toList, String.ofList_toList]

/-- The fourth statement prints the body line. -/
theorem printed?_body (r : Reply) :
    printed? r ("print(f\"" ++ bodyTag ++ "\x7bresp['body']\x7d\")").toList =
      some (bodyLine r.body) := by
  have hargument : "print(f\"" ++ bodyTag ++ "\x7bresp['body']\x7d\")" =
      "print(" ++ String.ofList ("f\"".toList ++ (bodyTag.toList ++
        '\x7b' :: ("resp['body']".toList ++ '\x7d' :: [])) ++ "\"".toList) ++ ")" := by
    decide +kernel
  have hvalue : fieldText? r "resp['body']".toList = some r.body.toList := by
    rw [fieldText?, if_neg (by decide), if_pos rfl]
  rw [hargument, printed?_print, String.toList_ofList,
    argumentText?_field (by decide) (by decide) hvalue, List.append_nil, bodyLine,
    String.ofList_append, String.ofList_toList, String.ofList_toList]

/-! ### The print statements of a script -/

/-- The statements that print the reply. -/
def prints (requestId : String) : List String := [
  "print(" ++ literal (start requestId) ++ ")",
  "print(f\"" ++ statusTag ++ "\x7bresp['status_code']\x7d;\")",
  "print(f\"" ++ bodyTag ++ "\x7bresp['body']\x7d\")",
  "print(" ++ literal (finish requestId) ++ ")"]

theorem newline_notMem_print (s : String) : '\n' ∉ ("print(" ++ literal s ++ ")").toList := by
  intro h
  rw [String.toList_append, String.toList_append, List.mem_append, List.mem_append] at h
  rcases h with (h | h) | h
  · exact absurd h (by decide)
  · exact absurd (le_of_mem_literal h) (by decide)
  · exact absurd h (by decide)

/-- Each statement is on one line, whatever the id is. -/
theorem newline_notMem_of_mem_prints (requestId : String) :
    ∀ l ∈ (prints requestId).map String.toList, '\n' ∉ l := by
  rw [prints, List.map_cons, List.map_cons, List.map_cons, List.map_cons, List.map_nil,
    List.forall_mem_cons, List.forall_mem_cons, List.forall_mem_cons, List.forall_mem_cons]
  exact ⟨newline_notMem_print _, by decide +kernel, by decide +kernel, newline_notMem_print _,
    List.forall_mem_nil _⟩

/-- The print statements of a script are the same whatever stands before them. -/
theorem printStatements_append_script (lead handler requestId : String) (event : Json.Value) :
    printStatements (lead ++ script handler requestId event) =
      (prints requestId).map String.toList := by
  obtain ⟨setup, hsetup⟩ : ∃ setup, (lead ++ script handler requestId event).toList =
      setup ++ '\n' :: ((prints requestId).map String.toList).flatMap (· ++ ['\n']) :=
    ⟨lead.toList ++ ("resp = None\nresp = ".toList ++ handler.toList ++ "(json.loads(".toList ++
      (literal event.text).toList ++ "))".toList), by simp [script, statements, prints]⟩
  have hcut : (cutAll '\n' (lead ++ script handler requestId event).toList).dropLast =
      cutAll '\n' setup ++ (prints requestId).map String.toList := by
    rw [hsetup, cutAll_append, cutAll_flatMap (newline_notMem_of_mem_prints requestId),
      ← List.append_assoc, List.dropLast_concat]
  rw [printStatements, hcut, List.length_append]
  exact List.drop_left' (Nat.add_sub_cancel _ 4).symm

/-! ### From a script to a reply -/

/-- The print statements of a request print the lines of a block. -/
theorem mapM_printed?_prints (requestId : String) (r : Reply) :
    ((prints requestId).map String.toList).mapM (printed? r) = some (block requestId r) := by
  simp only [prints, List.map_cons, List.map_nil, List.mapM_cons, List.mapM_nil, printed?_status,
    printed?_body, printed?_print, argumentText?_literal]
  rfl

/-- The lines that a script prints are those of a block. -/
theorem mapM_printed? (handler requestId : String) (event : Json.Value) (r : Reply) :
    (printStatements (script handler requestId event)).mapM (printed? r) =
      some (block requestId r) := by
  have h := printStatements_append_script "" handler requestId event
  rw [String.empty_append] at h
  rw [h, mapM_printed?_prints]

section

variable {requestId : String} {r : Reply}

/-- Whole lines are read back, in whatever pieces they come. -/
theorem lines_block (hid : '\n' ∉ requestId.toList) (hline : '\n' ∉ r.body.toList)
    (hend : r.body.toList.getLast? ≠ some '\r') {pieces : List (List UInt8)}
    (hp : pieces.flatten = joined ((block requestId r).map lineBytes)) :
    lines [] pieces = block requestId r := by
  have hread : ∀ t ∈ block requestId r, lineText (lineBytes t) = t ∧ newline ∉ lineBytes t :=
    fun t => lineText_block hid hline hend
  have hwhole : ∀ l ∈ (block requestId r).map lineBytes, newline ∉ l := by
    intro l hl
    obtain ⟨t, ht, rfl⟩ := List.mem_map.1 hl
    exact (hread t ht).2
  rw [lines_eq_linesOf List.not_mem_nil, List.nil_append, hp, linesOf, cut_joined hwhole,
    List.map_map]
  exact (List.append_nil _).trans
    ((List.map_congr_left fun t ht => (hread t ht).1).trans (List.map_id _))

/-- A block is complete with its last line. -/
theorem result?_run_block (h : ¬ (finish requestId).toList <:+: r.body.toList) :
    ((fresh requestId).run (block requestId r)).result? = some (r, []) := by
  rw [block, result?_run_of_completes
    (fun l hl => completes_fresh_eq_false_iff.2 (not_finish_infix_of_mem_opened h hl))
    (completes_fresh_iff.2 List.infix_rfl), reply_foldl_opened h]

/-- A block is not complete before its last line. -/
theorem result?_run_take_block (h : ¬ (finish requestId).toList <:+: r.body.toList) {k : Nat}
    (hk : k < 4) : ((fresh requestId).run ((block requestId r).take k)).result? = none := by
  have htake : (block requestId r).take k = (opened requestId r).take k :=
    List.take_append_of_le_length (Nat.le_of_lt_succ hk)
  have hopen : ∀ l ∈ (opened requestId r).take k, (fresh requestId).completes l = false :=
    fun l hl => completes_fresh_eq_false_iff.2
      (not_finish_infix_of_mem_opened h (List.mem_of_mem_take hl))
  rw [htake, ← List.append_nil ((opened requestId r).take k), result?_run_append hopen]
  rfl

/-- What the print statements of a script print of a reply is read back from the output: four lines,
in whatever pieces they come, of which a decoder for the same id takes the first three without an
end, and has the reply with the fourth. -/
theorem decodes_printed (handler requestId : String) (event : Json.Value) (r : Reply)
    (hid : '\n' ∉ requestId.toList) (hline : '\n' ∉ r.body.toList)
    (hend : r.body.toList.getLast? ≠ some '\r')
    (hmarker : ¬ (finish requestId).toList <:+: r.body.toList) :
    ∃ texts, (printStatements (script handler requestId event)).mapM (printed? r) = some texts ∧
      texts.length = 4 ∧
      ∀ pieces : List (List UInt8), pieces.flatten = joined (texts.map lineBytes) →
        ((fresh requestId).run (lines [] pieces)).result? = some (r, []) ∧
        (lines [] pieces).length = 4 ∧
        ∀ k < 4, ((fresh requestId).run ((lines [] pieces).take k)).result? = none := by
  refine ⟨block requestId r, mapM_printed? handler requestId event r, rfl, fun pieces hp => ?_⟩
  rw [lines_block hid hline hend hp]
  exact ⟨result?_run_block hmarker, rfl, fun k => result?_run_take_block hmarker⟩

end

/-- A reply whose body looks like the end of another reply. -/
def lookalike : Reply := ⟨⟨201, by omega, by omega⟩, "CMD_OUTPUT_END=s;"⟩

/-- A body that looks like the end of another reply is read back, and so is an id that must be
escaped. -/
theorem decodes_printed_lookalike :
    ('\n' ∉ "r\"\\".toList ∧ '\n' ∉ lookalike.body.toList ∧
      lookalike.body.toList.getLast? ≠ some '\r' ∧
      ¬ (finish "r\"\\").toList <:+: lookalike.body.toList) ∧
    ∃ texts, (printStatements (script "handler" "r\"\\" .null)).mapM (printed? lookalike) =
        some texts ∧ texts.length = 4 ∧
      ∀ pieces : List (List UInt8), pieces.flatten = joined (texts.map lineBytes) →
        ((fresh "r\"\\").run (lines [] pieces)).result? = some (lookalike, []) ∧
        (lines [] pieces).length = 4 ∧
        ∀ k < 4, ((fresh "r\"\\").run ((lines [] pieces).take k)).result? = none := by
  have hid : '\n' ∉ "r\"\\".toList := by decide
  have hline : '\n' ∉ lookalike.body.toList := by decide
  have hend : lookalike.body.toList.getLast? ≠ some '\r' := by decide
  have hmarker : ¬ (finish "r\"\\").toList <:+: lookalike.body.toList := by decide +kernel
  exact ⟨⟨hid, hline, hend, hmarker⟩,
    decodes_printed "handler" "r\"\\" .null lookalike hid hline hend hmarker⟩

end FunctionHost.Call
