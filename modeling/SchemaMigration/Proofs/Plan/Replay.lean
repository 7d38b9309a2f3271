import SchemaMigration.Proofs.Plan.Script
import SchemaMigration.Proofs.Text.Blank
import SchemaMigration.Proofs.Text.LineComment

/-!
# Replaying a script

Who takes the comments out of the script of a plan and cuts it at each semicolon should get back the
statements of the plan (`Plan.Replays`).  This is so exactly if no statement ends in a comment of
its own, which would take the semicolon behind it along (`Plan.replays_iff`): a script has a
semicolon outside of comments for each of the other statements (`count_shown`), and those cut it
where they should (`pieces_shown`).
-/

namespace SchemaMigration
open Text (uncommented EndsInComment)

/-! ### Parts without comments -/

namespace ScriptPart

/-- A part of a script without its comments, as far as it is a line or a statement. -/
def shown : ScriptPart → String
  | .comment _ => "\n"
  | .statement sql => uncommented (sql ++ ";") ++ "\n"

/-- The comments among the parts are lines, blank or with two dashes at the beginning. -/
def Lines (parts : List ScriptPart) : Prop :=
  ∀ text, .comment text ∈ parts → ∃ line, text = line ++ "\n" ∧ '\n' ∉ line.toList ∧
    (line = "" ∨ "--".toList <+: line.toList)

variable {parts : List ScriptPart}

/-- Nothing is left of a comment but its line break. -/
theorem uncommented_comment {line : String} (hline : '\n' ∉ line.toList)
    (hcomment : line = "" ∨ "--".toList <+: line.toList) : uncommented line = "" := by
  rw [Text.uncommented_line hline]
  obtain rfl | hdashes := hcomment
  · rfl
  · rw [Text.beforeDashes_of_prefix hdashes, String.ofList_nil]

/-- The comments are taken out of each part alone. -/
theorem uncommented_join (h : Lines parts) :
    uncommented (String.join (parts.map text)) = String.join (parts.map shown) := by
  induction parts with
  | nil => rfl
  | cons part rest ih =>
    have hrest := ih fun text htext => h text (List.mem_cons_of_mem _ htext)
    rw [List.map_cons, String.join_cons, List.map_cons, String.join_cons, ← hrest]
    -- every part ends with its line, so no comment goes on in the next part
    cases part with
    | comment text =>
      obtain ⟨line, rfl, hline, hcomment⟩ := h text (List.mem_cons_self ..)
      rw [ScriptPart.text, Text.uncommented_append, uncommented_comment hline hcomment]
      rfl
    | statement sql =>
      have hbreak : sql ++ ";\n" = sql ++ ";" ++ "\n" := by rw [String.append_assoc]; rfl
      rw [ScriptPart.text, hbreak, Text.uncommented_append]
      rfl

/-! ### Cutting at semicolons -/

theorem semicolon_eq : ";" = String.singleton ';' := by decide

theorem shown_of_endsInComment {sql : String} (h : EndsInComment sql) :
    (ScriptPart.statement sql).shown = uncommented sql ++ "\n" := by
  rw [shown, semicolon_eq, Text.uncommented_concat_of_endsInComment h (by decide)]

theorem shown_of_not_endsInComment {sql : String} (h : ¬ EndsInComment sql) :
    (ScriptPart.statement sql).shown = uncommented sql ++ ";" ++ "\n" := by
  rw [shown, semicolon_eq, Text.uncommented_concat h (by decide) (by decide)]

/-- Where no statement ends in a comment, the parts are cut into the statements. -/
theorem pieces_shown (hends : ∀ sql ∈ parts.filterMap sql?, ¬ EndsInComment sql)
    (hsql : ∀ sql ∈ parts.filterMap sql?, ';' ∉ (uncommented sql).toList) {blanks : String}
    (hblanks : ∀ c ∈ blanks.toList, Text.isBlank c = true) :
    (Text.split (blanks ++ String.join (parts.map shown)) ';').map Text.trim =
      (parts.filterMap sql?).map (fun sql => Text.trim (uncommented sql)) ++ [""] := by
  have hsemicolon {blanks : String} (hblanks : ∀ c ∈ blanks.toList, Text.isBlank c = true) :
      ';' ∉ blanks.toList := fun hmem => absurd (hblanks _ hmem) (by decide)
  -- what the comments leave behind is white space in front of the next statement
  induction parts generalizing blanks with
  | nil =>
    rw [List.map_nil, String.join_nil, String.append_empty,
      Text.split_eq_singleton (hsemicolon hblanks), List.map_singleton, Text.trim,
      Text.trimBlanks_eq_nil hblanks]
    rfl
  | cons part rest ih =>
    rw [List.map_cons, String.join_cons]
    cases part with
    | comment text =>
      rw [shown, ← String.append_assoc]
      refine ih hends hsql fun c hc => ?_
      obtain hc | hc := List.mem_append.mp (String.toList_append ▸ hc)
      · exact hblanks c hc
      · rw [List.mem_singleton.mp hc]
        decide
    | statement sql =>
      obtain ⟨hend, hends⟩ := List.forall_mem_cons.mp hends
      obtain ⟨hsql, hrest⟩ := List.forall_mem_cons.mp hsql
      have hpiece : ';' ∉ (blanks ++ uncommented sql).toList := by
        rw [String.toList_append, List.mem_append, not_or]
        exact ⟨hsemicolon hblanks, hsql⟩
      have hcut : blanks ++ ((uncommented sql ++ ";" ++ "\n") ++ String.join (rest.map shown)) =
          blanks ++ uncommented sql ++ String.singleton ';' ++
            ("\n" ++ String.join (rest.map shown)) := by
        rw [← semicolon_eq]
        simp only [String.append_assoc]
      have hbreak : ∀ c ∈ "\n".toList, Text.isBlank c = true := by
        intro c hc
        obtain rfl : c = '\n' := by simpa using hc
        decide
      have hpieces := ih hends hrest hbreak
      rw [shown_of_not_endsInComment hend, hcut, Text.split_append,
        Text.split_eq_singleton hpiece, List.map_append, hpieces, List.map_singleton,
        Text.trim_append hblanks]
      rfl

/-- Each statement that does not end in a comment gives one semicolon. -/
theorem count_shown (hsql : ∀ sql ∈ parts.filterMap sql?, ';' ∉ (uncommented sql).toList) :
    (String.join (parts.map shown)).toList.count ';' ≤ (parts.filterMap sql?).length ∧
    ((String.join (parts.map shown)).toList.count ';' = (parts.filterMap sql?).length →
      ∀ sql ∈ parts.filterMap sql?, ¬ EndsInComment sql) := by
  induction parts with
  | nil => exact ⟨Nat.le_refl _, fun _ => by simp⟩
  | cons part rest ih =>
    rw [List.map_cons, String.join_cons, String.toList_append, List.count_append]
    cases part with
    | comment text =>
      have hnone : ("\n" : String).toList.count ';' = 0 := by decide
      rw [shown, hnone, Nat.zero_add]
      exact ih hsql
    | statement sql =>
      obtain ⟨hsql, hrest⟩ := List.forall_mem_cons.mp hsql
      obtain ⟨hle, heq⟩ := ih hrest
      have hzero := List.count_eq_zero.mpr hsql
      have hcons : (statement sql :: rest).filterMap sql? = sql :: rest.filterMap sql? := rfl
      rw [hcons, List.length_cons]
      -- a statement shows its terminator unless it ends in a comment
      by_cases hend : EndsInComment sql
      · have hcount : (ScriptPart.statement sql).shown.toList.count ';' = 0 := by
          rw [shown_of_endsInComment hend, String.toList_append, List.count_append, hzero]
          decide
        omega
      · have hcount : (ScriptPart.statement sql).shown.toList.count ';' = 1 := by
          rw [shown_of_not_endsInComment hend, String.toList_append, String.toList_append,
            List.count_append, List.count_append, hzero]
          decide
        refine ⟨by omega, fun h => List.forall_mem_cons.mpr ⟨hend, heq (by omega)⟩⟩

end ScriptPart

/-! ### Plans -/

namespace Plan

/-- Without its comments and cut at each semicolon, the script of a plan gives its statements in
order, each without its comments and the white space at its ends, and after the last of them one
blank piece. -/
def Replays (p : Plan) : Prop :=
  (Text.split (uncommented p.script) ';').map Text.trim =
    p.sql.map (fun sql => Text.trim (uncommented sql)) ++ [""]

instance (p : Plan) : Decidable p.Replays := inferInstanceAs (Decidable (_ = _))

variable {ds : List Descriptor} {a c : Nat}

/-- Where no key has a line break, the comments of a script are lines. -/
theorem lines_scriptParts
    (hkeys : ∀ step ∈ (build ds a c).steps, ∀ key ∈ step.key, '\n' ∉ key.text.toList) :
    ScriptPart.Lines (build ds a c).scriptParts := by
  intro text htext
  obtain ⟨line, hline, hcomment, hbreak⟩ := comment_of_mem_scriptParts htext
  refine ⟨line, hline, fun hmem => ?_, hcomment⟩
  obtain ⟨step, hstep, key, hkey, hmem'⟩ := hbreak hmem
  exact hkeys step hstep key hkey hmem'

/-- **Replaying a script.**  Let no key of a step have a line break and no statement a semicolon
outside of comments.  Then the script gives the statements of the plan back exactly if none of them
ends in a comment. -/
theorem replays_iff
    (hkeys : ∀ step ∈ (build ds a c).steps, ∀ key ∈ step.key, '\n' ∉ key.text.toList)
    (hsql : ∀ sql ∈ (build ds a c).sql, ';' ∉ (uncommented sql).toList) :
    (build ds a c).Replays ↔ ∀ sql ∈ (build ds a c).sql, ¬ EndsInComment sql := by
  rw [← filterMap_scriptParts] at hsql ⊢
  rw [Replays, script_eq, ScriptPart.uncommented_join (lines_scriptParts hkeys),
    ← filterMap_scriptParts]
  constructor
  · intro hpieces
    have hlength := congrArg List.length hpieces
    rw [List.length_map, Text.length_split, List.length_append, List.length_map] at hlength
    exact (ScriptPart.count_shown hsql).2 (Nat.succ.inj hlength)
  · intro hends
    have hnone : ∀ c ∈ "".toList, Text.isBlank c = true := by simp
    have hpieces := ScriptPart.pieces_shown hends hsql hnone
    rwa [String.empty_append] at hpieces

/-- A migration that executes one statement, and of which the file does not say how to revert
it. -/
def executing (key : MigrationKey) (sql : String) : Descriptor where
  key
  path := "1.yml"
  up := [.execute (.single sql)]
  down := none

/-- A comment inside a statement does no harm. -/
theorem replays_of_inner_comment :
    let desc := executing ⟨"001", by decide⟩ "SELECT 1 -- one;\n+ 2"
    (build [desc] 0 1).Replays ∧ (build [desc] 0 1).sql = ["SELECT 1 -- one;\n+ 2"] := by
  intro desc
  have hsql : (build [desc] 0 1).sql = ["SELECT 1 -- one;\n+ 2"] := by decide +kernel
  refine ⟨(replays_iff (by decide +kernel) (by decide +kernel)).mpr ?_, hsql⟩
  intro sql hmem hends
  obtain rfl := List.mem_singleton.mp (hsql ▸ hmem)
  -- the last line has no comment
  have hlines : "SELECT 1 -- one;\n+ 2" = "SELECT 1 -- one;" ++ "\n" ++ "+ 2" := by decide
  rw [hlines, Text.endsInComment_append, Text.endsInComment_line (by decide)] at hends
  exact absurd hends (by decide)

/-- The semicolon of a statement that ends in a comment is lost, and what stands behind a line break
in a key is taken for a part of a statement. -/
theorem not_replays_of_closing_comment :
    let key : MigrationKey := ⟨"001", by decide⟩
    let broken : MigrationKey := ⟨"001\nx", by decide⟩
    let closing := executing key "SELECT 1 -- done"
    let plain := executing broken "SELECT 1"
    ((Descriptor.ofText key "1.yml" "up:\n  - execute: SELECT 1 -- done\n").toOption =
        some closing ∧
      (∀ sql ∈ (build [closing] 0 1).sql, ';' ∉ (uncommented sql).toList) ∧
      (build [closing] 0 1).script =
        "-- migrate from version 0 to 1\n\n-- up 1: 001\nSELECT 1 -- done;\n" ∧
      ¬ (build [closing] 0 1).Replays) ∧
    (Descriptor.ofText broken "1.yml" "up:\n  - execute: SELECT 1\n").toOption = some plain ∧
      (∀ sql ∈ (build [plain] 0 1).sql, ';' ∉ (uncommented sql).toList) ∧
      ¬ (build [plain] 0 1).Replays := by
  decide +kernel

end Plan
end SchemaMigration
