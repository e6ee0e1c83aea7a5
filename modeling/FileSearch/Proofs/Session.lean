/-
This file describes the output of a session without its state. The answer to a line depends on the
line and on the number of switches before it; no other line leaves a trace.
-/

import FileSearch.Config
import FileSearch.Session
import Mathlib.Algebra.Ring.Parity
import Mathlib.Data.List.TakeWhile

namespace FileSearch.Session

/-- White space around a line does not count. -/
def trimmed (line : String) : String :=
  String.ofList (Text.trim line.toList)

/-- Such a line ends the session. -/
def Quits (line : String) : Prop :=
  trimmed line = ":quit" ∨ trimmed line = ":q"

/-- Such a line switches the scope on or off. -/
def Switches (line : String) : Prop :=
  trimmed line = ":scope"

instance : DecidablePred Quits := fun line =>
  inferInstanceAs (Decidable (trimmed line = ":quit" ∨ trimmed line = ":q"))

instance : DecidablePred Switches := fun line =>
  inferInstanceAs (Decidable (trimmed line = ":scope"))

/-- Such a text is compiled; any other one is a command or empty. -/
def IsQuery (text : String) : Prop :=
  text ∉ ["", ":quit", ":q", ":help", ":scope"]

/-- The scope is applied behind an odd number of switches. -/
def restrictedAfter (earlier : List String) : Bool :=
  decide (Odd (earlier.countP (Switches ·)))

/-- A compiled form is shown as JSON, and a violation by its message. -/
def shown : Except Violation Compiled → String
  | .ok compiled => compiled.toJson.pretty ++ "\n"
  | .error violation => "✗ " ++ violation.message ++ "\n"

/-- A text that is compiled is answered by its compiled form or by an error. -/
def queryReply (scope : Scope) (restricted : Bool) (text : String) : String :=
  match Expression.ofText? text with
  | .error malformed => "✗ " ++ (QueryError.malformed malformed).report ++ "\n"
  | .ok expression =>
    shown (if restricted then expression.compileWithin scope else expression.compile)

/-- This is what a session answers to a text, by the scope that it has and by whether it applies
it. -/
def reply (scope : Scope) (restricted : Bool) (text : String) : String :=
  if text = "" ∨ text = ":quit" ∨ text = ":q" then ""
  else if text = ":help" then help
  else if text = ":scope" then scopeNotice !restricted
  else queryReply scope restricted text

/-- This session has heard some lines. -/
def after (scope : Scope) (earlier : List String) : Session :=
  ⟨scope, restrictedAfter earlier⟩

/-- The prompt comes first, and then the answer to the line. -/
def exchange (scope : Scope) (earlier : List String) (line : String) : String :=
  (after scope earlier).prompt ++ reply scope (restrictedAfter earlier) (trimmed line)

/-- Every line is answered by the lines before it. -/
def dialogue (scope : Scope) (earlier lines : List String) : String :=
  String.join (lines.mapIdx fun index line => exchange scope (earlier ++ lines.take index) line)

/-- These lines are read: all of them, or those up to the first one that ends the session. -/
def heard (lines : List String) : List String :=
  lines.take (lines.findIdx (Quits ·) + 1)

/-- At the end of the input the prompt has been shown once more. -/
def closing (scope : Scope) (lines : List String) : String :=
  if ∃ line ∈ lines, Quits line then "" else (after scope lines).prompt

/-- This is the whole output for the given lines. -/
def printed (scope : Scope) (lines : List String) : String :=
  banner ++ String.join ((start scope).outputs lines)

theorem reply_of_isQuery (scope : Scope) (restricted : Bool) {text : String}
    (query : IsQuery text) : reply scope restricted text = queryReply scope restricted text := by
  simp only [IsQuery, List.mem_cons, List.not_mem_nil, or_false, not_or] at query
  obtain ⟨visible, noQuit, noShortQuit, noHelp, noSwitch⟩ := query
  rw [reply, if_neg (by simp [visible, noQuit, noShortQuit]), if_neg noHelp, if_neg noSwitch]

theorem compileText_of_read {session : Session} {text : String} {expression : Expression}
    (read : Expression.ofText? text = .ok expression) :
    session.compileText text =
      (if session.restricted then expression.compileWithin session.scope
        else expression.compile).mapError .violation := by
  rw [compileText, read]
  rfl

theorem answer_eq_queryReply (session : Session) (text : String) :
    session.answer text = queryReply session.scope session.restricted text := by
  rw [queryReply]
  cases read : Expression.ofText? text with
  | error malformed =>
    rw [answer, compileText, read]
    rfl
  | ok expression =>
    rw [answer, compileText_of_read read]
    show _ = shown (if session.restricted then expression.compileWithin session.scope
      else expression.compile)
    cases (if session.restricted then expression.compileWithin session.scope
      else expression.compile) <;> rfl

/-- This is what a line can ask for. -/
theorem ofLine_cases (line : String) :
    (Quits line ∧ Command.ofLine line = .quit) ∨
      (trimmed line = "" ∧ Command.ofLine line = .nothing) ∨
      (trimmed line = ":help" ∧ Command.ofLine line = .help) ∨
      (Switches line ∧ Command.ofLine line = .toggleScope) ∨
      (IsQuery (trimmed line) ∧ Command.ofLine line = .compile (trimmed line)) := by
  unfold Command.ofLine
  split
  · next empty => exact .inr (.inl ⟨empty, rfl⟩)
  · next quits => exact .inl ⟨.inl quits, rfl⟩
  · next quits => exact .inl ⟨.inr quits, rfl⟩
  · next helps => exact .inr (.inr (.inl ⟨helps, rfl⟩))
  · next switches => exact .inr (.inr (.inr (.inl ⟨switches, rfl⟩)))
  · next visible noQuit noShortQuit noHelp noSwitch =>
    refine .inr (.inr (.inr (.inr ⟨?_, rfl⟩)))
    simp only [IsQuery, List.mem_cons, List.not_mem_nil, or_false, not_or]
    exact ⟨visible, noQuit, noShortQuit, noHelp, noSwitch⟩

theorem restrictedAfter_concat (earlier : List String) (line : String) :
    restrictedAfter (earlier ++ [line]) = (restrictedAfter earlier ^^ decide (Switches line)) := by
  rw [restrictedAfter, restrictedAfter, List.countP_append, List.countP_singleton]
  by_cases switches : Switches line
  · rw [if_pos (decide_eq_true switches), decide_eq_true switches, Bool.xor_true, ← decide_not]
    exact decide_eq_decide.mpr Nat.odd_add_one
  · rw [if_neg (by simpa using switches), decide_eq_false switches, Bool.xor_false, Nat.add_zero]

theorem dialogue_cons (scope : Scope) (earlier : List String) (line : String)
    (lines : List String) :
    dialogue scope earlier (line :: lines) =
      exchange scope earlier line ++ dialogue scope (earlier ++ [line]) lines := by
  rw [dialogue, List.mapIdx_cons, String.join_cons, List.take_zero, List.append_nil, dialogue]
  simp only [List.take_succ_cons, List.append_assoc, List.cons_append, List.nil_append]

theorem dialogue_append (scope : Scope) (earlier first second : List String) :
    dialogue scope earlier (first ++ second) =
      dialogue scope earlier first ++ dialogue scope (earlier ++ first) second := by
  induction first generalizing earlier with
  | nil =>
    rw [List.append_nil]
    exact String.empty_append.symm
  | cons line lines inductionHypothesis =>
    rw [List.cons_append, dialogue_cons, inductionHypothesis, dialogue_cons, String.append_assoc,
      List.append_assoc]
    rfl

theorem dialogue_singleton (scope : Scope) (earlier : List String) (line : String) :
    dialogue scope earlier [line] = exchange scope earlier line :=
  (dialogue_cons scope earlier line []).trans String.append_empty

/-- A line ends the session, or it is answered and counts from then on. -/
theorem step_ofLine (scope : Scope) (earlier : List String) (line : String) :
    (after scope earlier).step (Command.ofLine line) =
      if Quits line then none
      else some (reply scope (restrictedAfter earlier) (trimmed line),
        after scope (earlier ++ [line])) := by
  rw [after, after, restrictedAfter_concat]
  rcases ofLine_cases line with ⟨quits, asks⟩ | ⟨empty, asks⟩ | ⟨helps, asks⟩ | ⟨switches, asks⟩ |
    ⟨query, asks⟩
  · rw [asks, if_pos quits, step]
  · rw [asks, step]
    simp [Quits, Switches, empty, reply]
  · rw [asks, step]
    simp [Quits, Switches, helps, reply]
  · rw [asks, step]
    simp only [Switches] at switches
    simp [Quits, Switches, switches, reply]
  · rw [asks, step, answer_eq_queryReply, reply_of_isQuery scope _ query]
    simp only [IsQuery, List.mem_cons, List.not_mem_nil, or_false, not_or] at query
    simp [Quits, Switches, query]

section

variable (scope : Scope) (earlier : List String) {line : String}

theorem reply_of_quits (restricted : Bool) (quits : Quits line) :
    reply scope restricted (trimmed line) = "" :=
  if_pos (.inr quits)

/-- Nothing is read behind a line that ends the session. -/
theorem join_outputs_of_quits (quits : Quits line) (lines : List String) :
    String.join ((after scope earlier).outputs (line :: lines)) = (after scope earlier).prompt := by
  rw [outputs, step_ofLine, if_pos quits]
  show String.join [(after scope earlier).prompt] = _
  rw [String.join_cons, String.join_nil, String.append_empty]

theorem join_outputs_cons (stays : ¬ Quits line) (lines : List String) :
    String.join ((after scope earlier).outputs (line :: lines)) =
      exchange scope earlier line ++
        String.join ((after scope (earlier ++ [line])).outputs lines) := by
  rw [outputs, step_ofLine, if_neg stays, exchange, String.append_assoc]
  exact String.join_cons.trans (congrArg _ String.join_cons)

/-- The lines that do not end the session are answered, and then the session goes on. -/
theorem join_outputs_append {before : List String} (stay : ∀ line ∈ before, ¬ Quits line)
    (lines : List String) :
    String.join ((after scope earlier).outputs (before ++ lines)) =
      dialogue scope earlier before ++
        String.join ((after scope (earlier ++ before)).outputs lines) := by
  induction before generalizing earlier with
  | nil =>
    rw [List.append_nil]
    exact String.empty_append.symm
  | cons first before inductionHypothesis =>
    -- The line that has been answered counts among the earlier ones for the others.
    rw [List.forall_mem_cons] at stay
    rw [List.cons_append, join_outputs_cons scope earlier stay.1, inductionHypothesis _ stay.2,
      dialogue_cons, String.append_assoc, List.append_assoc]
    rfl

end

section

variable (scope : Scope) {before lines : List String} {quit : String}

theorem printed_append (stay : ∀ line ∈ before, ¬ Quits line) (lines : List String) :
    printed scope (before ++ lines) =
      banner ++ dialogue scope [] before ++ String.join ((after scope before).outputs lines) := by
  have begins : start scope = after scope [] := rfl
  rw [printed, begins, join_outputs_append scope [] stay, String.append_assoc]
  rfl

theorem printed_of_quits (stay : ∀ line ∈ before, ¬ Quits line) (quits : Quits quit)
    (rest : List String) :
    printed scope (before ++ quit :: rest) =
      banner ++ dialogue scope [] before ++ (after scope before).prompt := by
  rw [printed_append scope stay, join_outputs_of_quits scope before quits]

theorem exists_first_quit (quits : ∃ line ∈ lines, Quits line) :
    ∃ before quit rest, lines = before ++ quit :: rest ∧ (∀ line ∈ before, ¬ Quits line) ∧
      Quits quit := by
  obtain ⟨line, member, ends⟩ := quits
  cases search : lines.find? (Quits ·) with
  | none => exact absurd (decide_eq_true ends) (List.find?_eq_none.mp search line member)
  | some quit =>
    obtain ⟨found, before, rest, split, stay⟩ := List.find?_eq_some_iff_append.mp search
    refine ⟨before, quit, rest, split, fun earlier inside => ?_, of_decide_eq_true found⟩
    simpa using stay earlier inside

theorem heard_of_stay (stay : ∀ line ∈ lines, ¬ Quits line) : heard lines = lines := by
  have search : lines.findIdx (Quits ·) = lines.length :=
    List.findIdx_eq_length.mpr fun line member => decide_eq_false (stay line member)
  rw [heard, search, List.take_of_length_le (Nat.le_succ _)]

theorem heard_of_quits (stay : ∀ line ∈ before, ¬ Quits line) (quits : Quits quit)
    (rest : List String) : heard (before ++ quit :: rest) = before ++ [quit] := by
  have search : before.findIdx (Quits ·) = before.length :=
    List.findIdx_eq_length.mpr fun line member => decide_eq_false (stay line member)
  rw [heard, List.findIdx_append, search, if_neg (Nat.lt_irrefl _), List.findIdx_cons,
    decide_eq_true quits, cond_true, Nat.zero_add, List.take_length_add_append]
  rfl

/-- The output of a session needs no state: each line that is heard is answered by itself and by the
lines before it. -/
theorem printed_eq (lines : List String) :
    printed scope lines = banner ++ dialogue scope [] (heard lines) ++ closing scope lines := by
  rw [closing]
  split_ifs with quits
  · obtain ⟨before, quit, rest, rfl, stay, ends⟩ := exists_first_quit quits
    rw [printed_of_quits scope stay ends, heard_of_quits stay ends, dialogue_append,
      dialogue_singleton, exchange, reply_of_quits scope _ ends, String.append_empty,
      String.append_empty, String.append_assoc]
    rfl
  · have stay : ∀ line ∈ lines, ¬ Quits line := fun line member ends =>
      quits ⟨line, member, ends⟩
    rw [heard_of_stay stay, ← List.append_nil lines, printed_append scope stay, List.append_nil]
    rfl

/-- What stands behind a line that ends the session is not read. -/
theorem printed_eq_of_quits (quits : Quits quit) (rest : List String) :
    printed scope (before ++ quit :: rest) = printed scope (before ++ [quit]) := by
  have ends : ∃ line ∈ before ++ [quit], Quits line :=
    ⟨quit, List.mem_append_right _ List.mem_cons_self, quits⟩
  -- A line in front of this one may have ended the session already.
  obtain ⟨front, first, behind, split, stay, found⟩ := exists_first_quit ends
  have longer : before ++ quit :: rest = front ++ first :: (behind ++ rest) := by
    rw [← List.cons_append, ← List.append_assoc, ← split, List.append_assoc]
    rfl
  rw [longer, split, printed_of_quits scope stay found, printed_of_quits scope stay found]

/-- A line that does not switch adds its own answer and changes no other one. -/
theorem printed_insert (stay : ∀ line ∈ before, ¬ Quits line) {line : String}
    (stays : ¬ Quits line) (same : ¬ Switches line) (rest : List String) :
    ∃ behind, printed scope (before ++ rest) = banner ++ dialogue scope [] before ++ behind ∧
      printed scope (before ++ line :: rest) =
        banner ++ dialogue scope [] before ++ (exchange scope before line ++ behind) := by
  refine ⟨_, printed_append scope stay rest, ?_⟩
  have unchanged : after scope (before ++ [line]) = after scope before := by
    rw [after, restrictedAfter_concat, decide_eq_false same, Bool.xor_false]
    rfl
  rw [printed_append scope stay, join_outputs_cons scope before stays, unchanged]

end

/-- The scope decides neither whether a text is refused nor what its summary holds. -/
theorem queryReply_agree (scope : Scope) (text : String) :
    (∃ message, ∀ restricted, queryReply scope restricted text = "✗ " ++ message ++ "\n") ∨
      ∃ (compiled : Compiled) (query : String),
        queryReply scope false text = shown (.ok compiled) ∧
        queryReply scope true text = shown (.ok { compiled with queryString := query }) := by
  simp only [queryReply]
  cases Expression.ofText? text with
  | error malformed => exact .inl ⟨_, fun _ => rfl⟩
  | ok expression =>
    simp only [Expression.compileWithin]
    cases expression.compile with
    | error violation =>
      refine .inl ⟨violation.message, fun restricted => ?_⟩
      cases restricted <;> rfl
    | ok compiled => exact .inr ⟨compiled, _, rfl, rfl⟩

section

variable {input : String} (plain : '\x08' ∉ input.toList)

include plain

theorem map_readLine?_lines :
    (Text.lines input.toList).map readLine? =
      ((Text.lines input.toList).map String.ofList).map some := by
  rw [List.map_map]
  apply List.map_congr_left
  intro line found
  have kept : Text.erased? line = some line :=
    Text.erased?_of_not_mem line fun inside => plain (Text.mem_of_mem_lines found inside)
  rw [readLine?, kept]
  rfl

/-- An input without backspaces is read as its lines, and the session ends in order. -/
theorem readLines_eq_lines :
    readLines input = (Text.lines input.toList).map String.ofList ∧ outcome input = .finished := by
  have readable : ∀ line ∈ ((Text.lines input.toList).map String.ofList).map some,
      line.isSome = true :=
    List.forall_mem_map.mpr fun _ _ => rfl
  constructor
  · rw [readLines, map_readLine?_lines plain, List.takeWhile_eq_self_iff.mpr readable,
      List.filterMap_map]
    exact List.filterMap_some
  · rw [outcome, map_readLine?_lines plain, if_pos (List.all_eq_true.mpr readable), ite_self]

end

/-- The output of a session is the banner and the answer to each line that is heard, and at the end
of the input one more prompt. An answer depends on its own line and on the parity of the switches
before it, so that another line can be left out, and what stands behind the end of the session does
not count. The scope changes the query in an answer only. -/
theorem printed_eq_dialogue (config : Config) (lines : List String) :
    (∀ input, readLines input = lines →
      transcript config.scope input = printed config.scope lines) ∧
    printed config.scope lines =
      banner ++ dialogue config.scope [] (heard lines) ++ closing config.scope lines ∧
    (∀ before line rest, lines = before ++ line :: rest → (∀ earlier ∈ before, ¬ Quits earlier) →
      ¬ Quits line → ¬ Switches line →
      ∃ behind, printed config.scope (before ++ rest) =
          banner ++ dialogue config.scope [] before ++ behind ∧
        printed config.scope lines =
          banner ++ dialogue config.scope [] before ++
            (exchange config.scope before line ++ behind)) ∧
    (∀ before quit rest, lines = before ++ quit :: rest → Quits quit →
      printed config.scope lines = printed config.scope (before ++ [quit])) ∧
    ∀ text, IsQuery text →
      (∃ message, ∀ restricted, reply config.scope restricted text = "✗ " ++ message ++ "\n") ∨
      ∃ (compiled : Compiled) (query : String),
        reply config.scope false text = compiled.toJson.pretty ++ "\n" ∧
        reply config.scope true text =
          { compiled with queryString := query : Compiled }.toJson.pretty ++ "\n" := by
  refine ⟨?_, printed_eq config.scope lines, ?_, ?_, ?_⟩
  · rintro input rfl
    rfl
  · rintro before line rest rfl stay stays same
    exact printed_insert config.scope stay stays same rest
  · rintro before quit rest rfl quits
    exact printed_eq_of_quits config.scope quits rest
  · intro text query
    simp only [reply_of_isQuery _ _ query]
    exact queryReply_agree config.scope text

/-- The scope is switched on between two equal queries, and a help line is not read any more. -/
def switchedLines : List String :=
  ["\"a or b\"", " :scope\t", "\"a or b\"", "\u3000", ":q", ":help"]

set_option maxRecDepth 10000 in
theorem printed_eq_dialogue_switchedLines :
    transcript Config.standard.scope "\"a or b\"\n :scope\t\n\"a or b\"\n\u3000\r\n:q\n:help" =
        banner ++
          "query> " ++ "\x7b\n  \"queryString\": \"a or b\",\n  \"filters\": \x7b\x7d\n\x7d\n" ++
          "query> " ++ "作用域条件: 开启\n" ++
          "query[scoped]> " ++ "\x7b\n  \"queryString\": \"(a or b) and trashed = false\",\n" ++
            "  \"filters\": \x7b\x7d\n\x7d\n" ++
          "query[scoped]> " ++ "query[scoped]> " ∧
      (∃ behind, printed Config.standard.scope (switchedLines.eraseIdx 3) =
          banner ++ dialogue Config.standard.scope [] (switchedLines.take 3) ++ behind ∧
        printed Config.standard.scope switchedLines =
          banner ++ dialogue Config.standard.scope [] (switchedLines.take 3) ++
            (exchange Config.standard.scope (switchedLines.take 3) "\u3000" ++ behind)) ∧
      printed Config.standard.scope switchedLines =
        printed Config.standard.scope (switchedLines.take 5) := by
  obtain ⟨served, whole, leaveOut, ends, -⟩ := printed_eq_dialogue Config.standard switchedLines
  refine ⟨(served _ ?_).trans (whole.trans (by decide +kernel)), ?_, ?_⟩
  · exact (readLines_eq_lines (by decide)).1.trans (by decide)
  · exact leaveOut (switchedLines.take 3) "\u3000" [":q", ":help"] rfl (by decide) (by decide)
      (by decide)
  · exact ends (switchedLines.take 4) ":q" [":help"] rfl (by decide)

end FileSearch.Session
