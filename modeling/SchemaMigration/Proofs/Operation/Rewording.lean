import SchemaMigration.Proofs.Operation.Record

/-!
# Rewording operations

The documents of operations may be reworded at every level without a change to what they say:
`Payload.RecordReworded` changes one record, `Payload.ItemReworded` one item of a list,
`Operation.Reworded` the mapping of an operation, and `Operation.ListReworded` one of the operations
in a list.  A reader `Respects` a way of rewording when it reads at least as much from the reworded
document, with the same result.  Each combinator of readers has one lemma to this effect, and each
payload is read off them.
-/

namespace SchemaMigration

namespace Payload
open Document Operation SchemaMigration.Except

variable {α : Type} {es fs : List (Document × Document)} {d d' : Document}
  {R : Document → Document → Prop}

/-- A reader gives a reworded document the result that it gives the document. -/
def Respects (R : Document → Document → Prop) (reader : Reader α) : Prop :=
  ∀ ⦃d d'⦄, R d d' → Keeps (reader d) (reader d')

/-! ### The fields of a record -/

/-- A field that is read as it stands. -/
def asItStands (_ _ : Document) : Prop := False

theorem respects_asItStands (reader : Reader α) : Respects asItStands reader :=
  fun _ _ h => h.elim

/-- The field of a record has a check that puts up with the rewordings of a member. -/
structure Suits (s : Slot) (f : Field) : Prop where
  name : f.name = s.name
  value : Respects s.value f.check
  null : s.mayBeNull = true → f.check .null = .ok ()

theorem suits_given {name : String} {reader : Reader α} (h : Respects R reader) :
    Suits ⟨name, R, false⟩ (.of name reader) :=
  ⟨rfl, fun _ _ hd => (h hd).map _, nofun⟩

theorem suits_nullable {name : String} {reader : Reader α} {absent : α} (h : Respects R reader)
    (hnull : reader .null = .ok absent) : Suits ⟨name, R, true⟩ (.of name reader) :=
  ⟨rfl, fun _ _ hd => (h hd).map _, fun _ => by simp [Field.of, hnull]⟩

theorem Suits.admits {s : Slot} {f : Field} (h : Suits s f) {ds ds' : List Document}
    (hds : s.Agrees ds ds') (hadmits : f.Admits ds) : f.Admits ds' := by
  cases hds with
  | same => exact hadmits
  | nullAdded hnull => exact .inr ⟨.null, rfl, h.null hnull⟩
  | nullRemoved => exact .inl rfl
  | within hd =>
    have hcheck := (Field.admits_cons_iff.mp hadmits).1
    exact .inr ⟨_, rfl, h.value hd () hcheck⟩

theorem required_keeps {s : Slot} {reader : Reader α} (hreader : Respects s.value reader)
    (hnull : s.mayBeNull = false)
    (h : s.Agrees (valuesUnder keyText s.name es) (valuesUnder keyText s.name fs)) :
    Keeps (required s.name reader es) (required s.name reader fs) := by
  simp only [required, field?_eq_head?]
  generalize valuesUnder keyText s.name es = ds, valuesUnder keyText s.name fs = ds' at h
  cases h with
  | same => exact .refl _
  | nullAdded h | nullRemoved h => simp [hnull] at h
  | within hd => exact hreader hd

theorem optional_keeps {s : Slot} {reader : Reader α} {absent : α}
    (hreader : Respects s.value reader) (hnull : reader .null = .ok absent)
    (h : s.Agrees (valuesUnder keyText s.name es) (valuesUnder keyText s.name fs)) :
    Keeps (Payload.optional s.name reader absent es)
      (Payload.optional s.name reader absent fs) := by
  simp only [Payload.optional, field?_eq_head?]
  generalize valuesUnder keyText s.name es = ds, valuesUnder keyText s.name fs = ds' at h
  cases h with
  | same => exact .refl _
  | nullAdded | nullRemoved =>
    simp only [List.head?_nil, List.head?_cons, hnull]
    exact .refl _
  | within hd => exact hreader hd

/-! ### Records -/

/-- The form of a record: its keys are strings, inside tags or not, and unknown ones are passed
over. -/
def recordForm (slots : List Slot) (distinct : (slots.map Slot.name).Nodup) : Form where
  nameOf := keyText
  slots := slots
  skips key := ∃ name, keyText key = some name ∧ ∀ s ∈ slots, name ≠ s.name
  distinct := distinct
  unread := fun ⟨_, hkey, hname⟩ s hs h => hname s hs (Option.some.inj (hkey.symm.trans h))

/-- One change to the mapping of a record, inside its tags. -/
inductive RecordReworded (F : Form) : Document → Document → Prop
  | mapping {es fs : List (Document × Document)} (h : F.Step es fs) :
    RecordReworded F (.mapping es) (.mapping fs)
  | tagged (tag : String) {d d' : Document} (h : RecordReworded F d d') :
    RecordReworded F (.tagged tag d) (.tagged tag d')

theorem RecordReworded.untagged {F : Form} (h : RecordReworded F d d') :
    ∃ es fs, d.untagged = .mapping es ∧ d'.untagged = .mapping fs ∧ F.Step es fs := by
  induction h with
  | mapping h => exact ⟨_, _, rfl, rfl, h⟩
  | tagged tag h ih => exact ih

theorem RecordReworded.ne_null {F : Form} (h : RecordReworded F d d') : d ≠ .null ∧ d' ≠ .null := by
  cases h with
  | mapping h => simp
  | tagged tag h => simp

section Record
variable {slots : List Slot} {distinct : (slots.map Slot.name).Nodup} {fields : List Field}

theorem names_of_suits (h : List.Forall₂ Suits slots fields) :
    fields.map Field.name = slots.map Slot.name := by
  induction h with
  | nil => rfl
  | cons h _ ih => rw [List.map_cons, List.map_cons, h.name, ih]

theorem named_of_step (h : (recordForm slots distinct).Step es fs)
    (hes : ∀ e ∈ es, (keyText e.1).isSome) : ∀ e ∈ fs, (keyText e.1).isSome := by
  cases h with
  | permuted h => exact fun e he => hes e (h.mem_iff.mpr he)
  | added h value =>
    obtain ⟨name, hkey, -⟩ := h
    exact List.forall_mem_cons.mpr ⟨by simp [hkey], hes⟩
  | nullAdded hs hnull hkey habsent =>
    have hkey : keyText _ = some _ := hkey
    exact List.forall_mem_cons.mpr ⟨by simp [hkey], hes⟩
  | removed | nullRemoved => exact (List.forall_mem_cons.mp hes).2
  | within hs hkey h => simpa only [List.forall_mem_append, List.forall_mem_cons] using hes

/-- Entries that pass agree with the entries after a change on every member. -/
theorem agrees_of_step (hsuits : List.Forall₂ Suits slots fields)
    (h : (recordForm slots distinct).Step es fs) (hes : checkFields fields [] es = .ok ())
    {s : Slot} (hs : s ∈ slots) :
    s.Agrees (valuesUnder keyText s.name es) (valuesUnder keyText s.name fs) := by
  have hfields : (fields.map Field.name).Nodup := names_of_suits hsuits ▸ distinct
  obtain ⟨f, hf, hsf⟩ := exists_right_of_forall₂ hsuits hs
  have hadmits := ((checkFields_eq_ok_iff hfields).mp hes).2 f hf
  rw [hsf.name] at hadmits
  exact h.agrees hs hadmits.length_le_one

/-- Entries that pass still pass after a change. -/
theorem checkFields_of_step (hsuits : List.Forall₂ Suits slots fields)
    (h : (recordForm slots distinct).Step es fs) (hes : checkFields fields [] es = .ok ()) :
    checkFields fields [] fs = .ok () := by
  have hfields : (fields.map Field.name).Nodup := names_of_suits hsuits ▸ distinct
  obtain ⟨hnamed, hadmits⟩ := (checkFields_eq_ok_iff hfields).mp hes
  refine (checkFields_eq_ok_iff hfields).mpr ⟨named_of_step h hnamed, fun f hf => ?_⟩
  obtain ⟨s, hs, hsf⟩ := exists_left_of_forall₂ hsuits hf
  rw [hsf.name]
  exact hsf.admits (agrees_of_step hsuits h hes hs) (hsf.name ▸ hadmits f hf)

/-- A record is read alike when what is built from its members is. -/
theorem record_respects {type : String} {build : List (Document × Document) → Except Fault α}
    (hsuits : List.Forall₂ Suits slots fields)
    (hbuild : ∀ es fs, (∀ s ∈ slots, s.Agrees (valuesUnder keyText s.name es)
      (valuesUnder keyText s.name fs)) → Keeps (build es) (build fs)) :
    Respects (RecordReworded (recordForm slots distinct)) (record type fields build) := by
  intro d d' h a ha
  obtain ⟨es, fs, hd, hd', hstep⟩ := h.untagged
  simp only [record, hd, hd'] at ha ⊢
  obtain ⟨⟨⟩, hes, hbuilt⟩ := bind_eq_ok_iff.mp ha
  rw [checkFields_of_step hsuits hstep hes]
  exact hbuild es fs (fun s hs => agrees_of_step hsuits hstep hes hs) a hbuilt

/-- A record of two members that have to be given. -/
theorem record_respects_pair {β γ : Type} {type a b : String} {R' : Document → Document → Prop}
    {distinct : ([⟨a, R, false⟩, ⟨b, R', false⟩].map Slot.name).Nodup} {first : Reader α}
    {second : Reader β} (hfirst : Respects R first) (hsecond : Respects R' second)
    (make : α → β → γ) :
    Respects (RecordReworded (recordForm [⟨a, R, false⟩, ⟨b, R', false⟩] distinct))
      (record type [.of a first, .of b second] fun entries => do
        let x ← required a first entries
        let y ← required b second entries
        pure (make x y)) := by
  refine record_respects (.cons (suits_given hfirst) (.cons (suits_given hsecond) .nil))
    fun es fs h => ?_
  obtain ⟨ha, hb, -⟩ := by simpa only [List.forall_mem_cons] using h
  exact (required_keeps hfirst rfl ha).bind fun _ =>
    (required_keeps hsecond rfl hb).bind fun _ => .refl _

end Record

/-! ### Lists and nulls -/

/-- One item of a list is reworded, inside the tags of the list. -/
inductive ItemReworded (R : Document → Document → Prop) : Document → Document → Prop
  | item (before after : List Document) {d d' : Document} (h : R d d') :
    ItemReworded R (.sequence (before ++ d :: after)) (.sequence (before ++ d' :: after))
  | tagged (tag : String) {d d' : Document} (h : ItemReworded R d d') :
    ItemReworded R (.tagged tag d) (.tagged tag d')

theorem ItemReworded.untagged (h : ItemReworded R d d') :
    ∃ before after e e', d.untagged = .sequence (before ++ e :: after) ∧
      d'.untagged = .sequence (before ++ e' :: after) ∧ R e e' := by
  induction h with
  | item before after h => exact ⟨before, after, _, _, rfl, rfl, h⟩
  | tagged tag h ih => exact ih

/-- A reworded item is read in its place in the list. -/
theorem mapM_item {ε : Type} {read : Document → Except ε α} (h : Keeps (read d) (read d'))
    (before after : List Document) :
    Keeps ((before ++ d :: after).mapM read) ((before ++ d' :: after).mapM read) := by
  refine .mapM (List.rel_append ?_ (.cons h ?_)) <;>
    exact List.forall₂_same.mpr fun e _ => .refl _

theorem list_respects {item : Reader α} (h : Respects R item) :
    Respects (ItemReworded R) (list item) := by
  intro d d' hd
  obtain ⟨before, after, e, e', hd, hd', he⟩ := hd.untagged
  simp only [list, hd, hd']
  exact mapM_item (h he) before after

theorem list_null (item : Reader α) : list item .null = .ok [] := rfl

theorem switch_null : switch .null = .ok false := rfl

theorem nullable_null (reader : Reader α) : nullable reader .null = .ok none := rfl

theorem nullable_respects {reader : Reader α} (h : Respects R reader)
    (hnull : ∀ {d d'}, R d d' → d ≠ .null ∧ d' ≠ .null) : Respects R (nullable reader) := by
  intro d d' hd
  obtain ⟨hne, hne'⟩ := hnull hd
  have hread : ∀ {d}, d ≠ .null → nullable reader d = (reader d).map some := by
    intro d hd
    cases d <;> first | rfl | exact absurd rfl hd
  rw [hread hne, hread hne']
  exact (h hd).map some

/-! ### Payloads -/

/-- The members of a default constraint. -/
def defaultForm : Form :=
  recordForm [⟨"name", asItStands, false⟩, ⟨"value", asItStands, false⟩] (by decide)

/-- The members of a column definition. -/
def columnForm : Form :=
  recordForm
    [⟨"name", asItStands, false⟩, ⟨"type", asItStands, false⟩, ⟨"nullable", asItStands, true⟩,
      ⟨"default", RecordReworded defaultForm, true⟩] (by decide)

/-- The members of a table definition. -/
def tableForm : Form :=
  recordForm
    [⟨"name", asItStands, false⟩, ⟨"timestamps", asItStands, true⟩,
      ⟨"columns", ItemReworded (RecordReworded columnForm), true⟩] (by decide)

/-- The members of a list of columns. -/
def columnListForm : Form :=
  recordForm
    [⟨"table", asItStands, false⟩, ⟨"columns", ItemReworded (RecordReworded columnForm), false⟩]
    (by decide)

/-- The members by which a column or a constraint is named. -/
def memberForm : Form :=
  recordForm [⟨"table", asItStands, false⟩, ⟨"name", asItStands, false⟩] (by decide)

/-- The members of one side of a foreign key. -/
def keyEndForm : Form :=
  recordForm [⟨"table", asItStands, false⟩, ⟨"columns", asItStands, false⟩] (by decide)

/-- The members of a foreign key. -/
def foreignKeyForm : Form :=
  recordForm
    [⟨"name", asItStands, false⟩, ⟨"from", RecordReworded keyEndForm, false⟩,
      ⟨"to", RecordReworded keyEndForm, false⟩] (by decide)

/-- The members of an index. -/
def indexForm : Form :=
  recordForm [⟨"table_name", asItStands, false⟩, ⟨"columns", asItStands, false⟩] (by decide)

theorem defaultConstraint_respects : Respects (RecordReworded defaultForm) defaultConstraint :=
  record_respects_pair (respects_asItStands _) (respects_asItStands _) DefaultConstraint.mk

theorem column_respects : Respects (RecordReworded columnForm) column := by
  have hdefault : Respects (RecordReworded defaultForm) (nullable defaultConstraint) :=
    nullable_respects defaultConstraint_respects RecordReworded.ne_null
  refine record_respects (.cons (suits_given (respects_asItStands _))
    (.cons (suits_given (respects_asItStands _))
    (.cons (suits_nullable (respects_asItStands _) (nullable_null _))
    (.cons (suits_nullable hdefault (nullable_null _)) .nil)))) fun es fs h => ?_
  obtain ⟨hname, htype, hnull, hvalue, -⟩ := by simpa only [List.forall_mem_cons] using h
  exact (required_keeps (respects_asItStands _) rfl hname).bind fun _ =>
    (required_keeps (respects_asItStands _) rfl htype).bind fun _ =>
    (optional_keeps (respects_asItStands _) (nullable_null _) hnull).bind fun _ =>
    (optional_keeps hdefault (nullable_null _) hvalue).bind fun _ => .refl _

theorem tableDefinition_respects : Respects (RecordReworded tableForm) tableDefinition := by
  have hcolumns := list_respects column_respects
  refine record_respects (.cons (suits_given (respects_asItStands _))
    (.cons (suits_nullable (respects_asItStands _) switch_null)
    (.cons (suits_nullable hcolumns (list_null _)) .nil))) fun es fs h => ?_
  obtain ⟨hname, htimestamps, hlist, -⟩ := by simpa only [List.forall_mem_cons] using h
  exact (required_keeps (respects_asItStands _) rfl hname).bind fun _ =>
    (optional_keeps (respects_asItStands _) switch_null htimestamps).bind fun _ =>
    (optional_keeps hcolumns (list_null _) hlist).bind fun _ => .refl _

theorem columnList_respects : Respects (RecordReworded columnListForm) columnList :=
  record_respects_pair (respects_asItStands _) (list_respects column_respects) ColumnList.mk

theorem member_respects (type : String) : Respects (RecordReworded memberForm) (member type) :=
  record_respects_pair (respects_asItStands _) (respects_asItStands _) Member.mk

theorem keyEnd_respects : Respects (RecordReworded keyEndForm) keyEnd :=
  record_respects_pair (respects_asItStands _) (respects_asItStands _) KeyEnd.mk

theorem foreignKey_respects : Respects (RecordReworded foreignKeyForm) foreignKey := by
  refine record_respects (.cons (suits_given (respects_asItStands _))
    (.cons (suits_given keyEnd_respects) (.cons (suits_given keyEnd_respects) .nil)))
    fun es fs h => ?_
  obtain ⟨hname, hsource, htarget, -⟩ := by simpa only [List.forall_mem_cons] using h
  exact (required_keeps (respects_asItStands _) rfl hname).bind fun _ =>
    (required_keeps keyEnd_respects rfl hsource).bind fun _ =>
    (required_keeps keyEnd_respects rfl htarget).bind fun _ => .refl _

theorem index_respects : Respects (RecordReworded indexForm) index :=
  record_respects_pair (respects_asItStands _) (respects_asItStands _) Index.mk

end Payload

namespace Operation
open Document Payload SchemaMigration.Except

variable {es fs : List (Document × Document)} {d d' : Document} {kind : OperationKind}

/-! ### Payloads of operations -/

/-- One change to the payload of an operation, where that is a record. -/
def PayloadReworded : OperationKind → Document → Document → Prop
  | .createTable => RecordReworded tableForm
  | .addColumn | .changeColumn => RecordReworded columnListForm
  | .removeColumn | .dropConstraint => RecordReworded memberForm
  | .addForeignKey => RecordReworded foreignKeyForm
  | .addIndex | .removeIndex => RecordReworded indexForm
  | .dropTable | .execute | .raw => asItStands

theorem PayloadReworded.exists_record (h : PayloadReworded kind d d') :
    ∃ F, RecordReworded F d d' := by
  cases kind with
  | dropTable | execute | raw => exact h.elim
  | _ => exact ⟨_, h⟩

theorem payload_respects {α : Type} {R : Document → Document → Prop} {reader : Reader α}
    (h : Respects R reader) (hd : R d d') :
    Keeps (payload kind reader d) (payload kind reader d') :=
  (h hd).mapError _

theorem ofPayload_keeps (h : PayloadReworded kind d d') :
    Keeps (ofPayload kind d) (ofPayload kind d') := by
  cases kind with
  | createTable => exact (payload_respects tableDefinition_respects h).map _
  | addColumn | changeColumn =>
    exact ((payload_respects columnList_respects h).bind fun _ => .refl _).map _
  | removeColumn | dropConstraint => exact (payload_respects (member_respects _) h).map _
  | addForeignKey => exact ((payload_respects foreignKey_respects h).bind fun _ => .refl _).map _
  | addIndex | removeIndex =>
    exact ((payload_respects index_respects h).bind fun _ => .refl _).map _
  | dropTable | execute | raw => exact h.elim

/-! ### Operations -/

/-- The form of the mapping of an operation: the payloads under operation keys, where a null stands
for no payload.  All other keys are passed over. -/
def form : Form where
  nameOf := string?
  slots := OperationKind.keyed.map fun kind => ⟨kind.key, PayloadReworded kind, true⟩
  skips key := ∀ kind ∈ OperationKind.keyed, key ≠ .string kind.key
  distinct := by decide
  unread := fun hkey => List.forall_mem_map.mpr fun kind hkind h =>
    hkey kind hkind (string?_eq_some_iff.mp h)

/-- One change to the mapping of an operation.  The keys of a mapping are pairwise different. -/
inductive Reworded : Document → Document → Prop
  | mapping {es fs : List (Document × Document)} (distinct : (es.map Prod.fst).Nodup)
      (h : form.Step es fs) : Reworded (.mapping es) (.mapping fs)

/-- Two payloads of one kind, the second of which may be reworded. -/
def PayloadAgrees (p q : OperationKind × Document) : Prop :=
  p.1 = q.1 ∧ (p.2 = q.2 ∨ PayloadReworded p.1 p.2 q.2)

/-- A change to the mapping of an operation leaves the operation keys with a value as they are. -/
theorem present_of_step (distinct : (es.map Prod.fst).Nodup) (h : form.Step es fs) :
    List.Forall₂ PayloadAgrees (present es) (present fs) := by
  have hkinds : List.Forall₂ (fun k l => k = l ∧ k ∈ OperationKind.keyed) OperationKind.keyed
      OperationKind.keyed := List.forall₂_same.mpr fun kind hkind => ⟨rfl, hkind⟩
  refine List.rel_filterMap ?_ hkinds
  rintro kind _ ⟨rfl, hkind⟩
  have hagrees := h.agrees (List.mem_map_of_mem hkind) (length_valuesUnder_le_one distinct)
  simp only [lookup?_eq_head?]
  change Slot.Agrees _ (valuesUnder string? kind.key es)
    (valuesUnder string? kind.key fs) at hagrees
  generalize valuesUnder string? kind.key es = ds, valuesUnder string? kind.key fs = ds' at hagrees
  cases hagrees with
  | same =>
    split
    · exact .none
    · exact .none
    · exact .some ⟨rfl, .inl rfl⟩
  | nullAdded | nullRemoved => exact .none
  | within hd =>
    -- a payload that can be reworded is a record, so neither of the two is null
    obtain ⟨F, hrecord⟩ := PayloadReworded.exists_record hd
    cases hrecord <;> exact .some ⟨rfl, .inr hd⟩

theorem ofDocument_keeps (h : Reworded d d') : Keeps (ofDocument d) (ofDocument d') := by
  obtain ⟨distinct, hstep⟩ := h
  have hpresent := present_of_step distinct hstep
  simp only [ofDocument]
  -- the same kind is given as before, so only its payload may read differently
  split
  · rename_i kind payload heq
    rw [heq] at hpresent
    obtain ⟨⟨_, payload'⟩, _, ⟨rfl, hpayload⟩, hrest, hfs⟩ := List.forall₂_cons_left_iff.mp hpresent
    cases hrest
    rw [hfs]
    obtain rfl | hpayload := hpayload
    · exact .refl _
    · exact ofPayload_keeps hpayload
  · exact nofun
  · exact nofun

/-! ### Lists of operations -/

/-- One change to one of the operations in a member of a descriptor. -/
def ListReworded (d d' : Document) : Prop := ItemReworded Reworded d d' ∨ Reworded d d'

theorem listOfDocument_keeps (h : ListReworded d d') :
    Keeps (listOfDocument d) (listOfDocument d') := by
  obtain h | h := h
  · cases h with
    | item before after h => exact mapM_item (ofDocument_keeps h) before after
    | tagged tag h => exact nofun
  · have hread := (ofDocument_keeps h).map fun op => [op]
    cases h
    exact hread

theorem ListReworded.not_isNull (h : ListReworded d d') :
    d.untagged.isNull = false ∧ d'.untagged.isNull = false := by
  obtain h | h := h
  · obtain ⟨before, after, e, e', hd, hd', -⟩ := h.untagged
    simp [hd, hd', isNull]
  · cases h
    exact ⟨rfl, rfl⟩

end Operation
end SchemaMigration
