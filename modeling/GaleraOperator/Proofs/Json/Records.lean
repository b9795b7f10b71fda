import GaleraOperator.Json.Decode
import GaleraOperator.Proofs.Dict

/-!
# Records that are read back

A record that was written is read back if each of its members is, and if no member is left out that has to be there. So
a record has a proof that is put together as its decoder is: from one fact for each member.
-/

namespace GaleraOperator.Json

variable {α β : Type}

/-! ## Members -/

section Members

variable {parts : List (String × Option Json)} {name : String}

/-- The members that are there. -/
def present (parts : List (String × Option Json)) : Members :=
  parts.filterMap fun (name, value) ↦ value.map (name, ·)

theorem ofFields_eq (parts : List (String × Option Json)) : ofFields parts = .object (present parts) := rfl

theorem mem_present {value : Json} : (name, value) ∈ present parts ↔ (name, some value) ∈ parts := by
  simp [present, and_comm]

theorem nodup_present (h : (parts.map Prod.fst).Nodup) : ((present parts).map Prod.fst).Nodup := by
  induction parts with
  | nil => exact .nil
  | cons part parts ih =>
    obtain ⟨hpart, hparts⟩ := List.nodup_cons.1 h
    obtain ⟨name, _ | value⟩ := part
    · exact ih hparts
    · refine List.nodup_cons.2 ⟨fun hmem ↦ hpart ?_, ih hparts⟩
      obtain ⟨⟨_, found⟩, hfound, rfl⟩ := List.mem_map.1 hmem
      exact List.mem_map.2 ⟨_, mem_present.1 hfound, rfl⟩

/-- Of members with different names each is found if it is there. -/
theorem lookup_present (h : (parts.map Prod.fst).Nodup) (name : String) :
    (present parts).lookup name = (parts.lookup name).join := by
  refine Option.ext fun value ↦ ?_
  rw [Option.join_eq_some_iff, Dict.lookup_eq_some_iff_mem (nodup_present h), Dict.lookup_eq_some_iff_mem h, mem_present]

end Members

/-! ## The normal form of a record -/

section Normal

variable {fields : List (Slot Shape)} {slot : Slot Shape} {members found : Members}

/-- Whether a slot takes a member, or does without one. -/
def Slot.Takes (slot : Slot Shape) : Option Json → Prop
  | none => slot.absence = .omitted ∨ slot.absence = .refusedInList
  | some j => ∃ normal, slot.shape.fit j = .ok normal ∧ normal ≠ .null

/-- What a slot makes of a member. -/
def Slot.normal? (slot : Slot Shape) (member : Option Json) : Option Json :=
  member.bind fun j ↦ (slot.shape.fit j).toOption

theorem Slot.normal?_some {j normal : Json} (h : slot.shape.fit j = .ok normal) : slot.normal? (some j) = some normal := by
  rw [normal?, Option.bind_some, h]
  rfl

theorem Shape.fit_orNull {shape : Shape} {j : Json} (h : j ≠ .null) : (Shape.orNull shape).fit j = shape.fit j := by
  rw [Shape.fit]
  exact h

theorem Shape.isKnown_iff {name : String} : Shape.isKnown fields name = true ↔ ∃ slot ∈ fields, slot.name = name := by
  simp [isKnown]

/-- A member is brought into its normal form by the slot of its name. -/
theorem Shape.fitNamed_eq (h : (fields.map Slot.name).Nodup) (hslot : slot ∈ fields) (j : Json) :
    Shape.fitNamed slot.name j fields = slot.shape.fit j := by
  induction fields with
  | nil => cases hslot
  | cons first fields ih =>
    obtain ⟨hfirst, hfields⟩ := List.nodup_cons.1 h
    rw [Shape.fitNamed]
    rcases List.mem_cons.1 hslot with rfl | hslot
    · rw [if_pos rfl]
    · have hne : first.name ≠ slot.name := fun heq ↦ hfirst (heq ▸ List.mem_map_of_mem hslot)
      rw [if_neg hne, ih hfields hslot]

/-- The step that reads the members of a record one after the other. -/
def fitStep (style : Style) (fields : List (Slot Shape)) (done : Members) : String × Json → Except ShapeFault Members
  | (name, value) =>
    if Shape.isKnown fields name then
      if style ≠ .lenient && Shape.isThere done name then .error (.repeatedMember name)
      else (Shape.fitNamed name value fields).map fun value ↦ (name, value) :: done
    else .ok done

theorem Shape.fit_record (style : Style) (kind : String) (fields : List (Slot Shape)) (members : Members) :
    (Shape.record style kind fields).fit (.object members) = (do
      let fitted ← members.foldlM (fitStep style fields) []
      return .object (← Shape.complete fields fitted)) := by
  rw [Shape.fit]
  rfl

theorem fitStep_of_fit {style : Style} {value normal : Json} (hslots : (fields.map Slot.name).Nodup)
    (hslot : slot ∈ fields) (hnew : Shape.isThere found slot.name = false) (hfit : slot.shape.fit value = .ok normal) :
    fitStep style fields found (slot.name, value) = .ok ((slot.name, normal) :: found) := by
  rw [fitStep, if_pos (Shape.isKnown_iff.2 ⟨slot, hslot, rfl⟩), hnew, Shape.fitNamed_eq hslots hslot, hfit]
  simp [Except.map]

theorem isThere_cons {name other : String} {value : Json} (hne : other ≠ name)
    (h : Shape.isThere found name = false) : Shape.isThere ((other, value) :: found) name = false := by
  rw [Shape.isThere, List.any_cons, decide_eq_false hne, Bool.false_or]
  exact h

/-- Members with different names, whose slots take them, are all brought into their normal form. -/
theorem foldlM_fitStep (style : Style) (hslots : (fields.map Slot.name).Nodup)
    (hnames : (members.map Prod.fst).Nodup) (hnew : ∀ member ∈ members, Shape.isThere found member.1 = false)
    (htakes : ∀ slot ∈ fields, ∀ value, (slot.name, value) ∈ members → slot.Takes (some value)) :
    ∃ fitted, members.foldlM (fitStep style fields) found = .ok fitted ∧ ∀ slot ∈ fields,
      fitted.lookup slot.name = (slot.normal? (members.lookup slot.name)).or (found.lookup slot.name) := by
  induction members generalizing found with
  | nil => exact ⟨found, rfl, fun _ _ ↦ rfl⟩
  | cons member members ih =>
    obtain ⟨name, value⟩ := member
    obtain ⟨hname, hdistinct⟩ := List.nodup_cons.1 hnames
    obtain ⟨hfound, hrest⟩ := List.forall_mem_cons.1 hnew
    have htakes' : ∀ slot ∈ fields, ∀ value, (slot.name, value) ∈ members → slot.Takes (some value) :=
      fun slot hslot value hmem ↦ htakes slot hslot value (List.mem_cons_of_mem _ hmem)
    rw [List.foldlM_cons]
    by_cases hknown : Shape.isKnown fields name = true
    · obtain ⟨slot, hslot, rfl⟩ := Shape.isKnown_iff.1 hknown
      obtain ⟨normal, hfit, -⟩ := htakes slot hslot value (List.mem_cons_self ..)
      obtain ⟨fitted, hfold, hlookup⟩ := ih hdistinct (fun member hmem ↦
        isThere_cons (fun heq ↦ hname (List.mem_map.2 ⟨member, hmem, heq.symm⟩)) (hrest member hmem)) htakes'
      refine ⟨fitted, ?_, fun other hother ↦ ?_⟩
      · rw [fitStep_of_fit hslots hslot hfound hfit]
        exact hfold
      · rw [hlookup other hother, List.lookup_cons, List.lookup_cons]
        by_cases heq : other.name = slot.name
        · obtain rfl : other = slot := List.inj_on_of_nodup_map hslots hother hslot heq
          rw [Dict.lookup_eq_none hname, beq_self_eq_true, Slot.normal?_some hfit]
          rfl
        · rw [beq_false_of_ne heq]
    · obtain ⟨fitted, hfold, hlookup⟩ := ih hdistinct hrest htakes'
      refine ⟨fitted, ?_, fun slot hslot ↦ ?_⟩
      · rw [fitStep, if_neg hknown]
        exact hfold
      · have hne : slot.name ≠ name := fun heq ↦ hknown (Shape.isKnown_iff.2 ⟨slot, hslot, heq⟩)
        rw [hlookup slot hslot, List.lookup_cons, beq_false_of_ne hne]

/-- A record is complete if no slot does without a member that has to be there. -/
theorem Shape.complete_eq (h : ∀ slot ∈ fields, (found.lookup slot.name = none ∧ slot.Takes none) ∨
      ∃ normal, found.lookup slot.name = some normal ∧ normal ≠ .null) :
    Shape.complete fields found = .ok (present (fields.map fun slot ↦ (slot.name, found.lookup slot.name))) := by
  induction fields with
  | nil => rfl
  | cons slot fields ih =>
    obtain ⟨hslot, hrest⟩ := List.forall_mem_cons.1 h
    obtain ⟨name, absence, shape⟩ := slot
    rcases hslot with ⟨hnone, htakes⟩ | ⟨normal, hsome, hnull⟩
    · rcases htakes with rfl | rfl <;> simp [Shape.complete, hnone, ih hrest, present]
    · simp [Shape.complete, hsome, hnull, ih hrest, present]

end Normal

/-! ## Reading documents -/

section Reads

variable {d : Decoder α} {fs : Fields α} {gs : Fields (α → β)} {get : String → Option Json} {a : α} {f : α → β}
  {name : String} {j : Json}

/-- That a document is read as a value; neither the document nor its normal form is `null`. -/
def Decoder.Reads (d : Decoder α) (j : Json) (a : α) : Prop :=
  j ≠ .null ∧ ∃ normal, d.shape.fit j = .ok normal ∧ normal ≠ .null ∧ d.view normal = some a

theorem Decoder.Reads.ofJson (h : d.Reads j a) : d.ofJson j = some a := by
  obtain ⟨-, normal, hfit, -, hview⟩ := h
  rw [Decoder.ofJson, hfit]
  exact hview

/-- That the members of a record are read as a value, given what `get` finds under each name. -/
structure Fields.ReadsFrom (fs : Fields α) (get : String → Option Json) (a : α) : Prop where
  takes : ∀ slot ∈ fs.fields, slot.Takes (get slot.name)
  view : ∀ found : Members, (∀ slot ∈ fs.fields, found.lookup slot.name = slot.normal? (get slot.name)) →
    fs.view found = some a

namespace Fields.ReadsFrom

theorem pure (a : α) : (Pure.pure a : Fields α).ReadsFrom get a where
  takes _ hslot := absurd hslot List.not_mem_nil
  view _ _ := rfl

theorem seq (hf : gs.ReadsFrom get f) (ha : fs.ReadsFrom get a) : (gs <*> fs).ReadsFrom get (f a) where
  takes slot hslot := (List.mem_append.1 hslot).elim (hf.takes slot) (ha.takes slot)
  view found hfound := by
    have hgs := hf.view found fun slot hslot ↦ hfound slot (List.mem_append_left _ hslot)
    have hfs := ha.view found fun slot hslot ↦ hfound slot (List.mem_append_right _ hslot)
    change (do return (← gs.view found) (← fs.view found)) = some (f a)
    rw [hgs, hfs]
    rfl

theorem map (f : α → β) (ha : fs.ReadsFrom get a) : (f <$> fs).ReadsFrom get (f a) := seq (pure f) ha

/-- A member that its slot takes is read as what its normal form stands for. -/
theorem of_some {slot : Slot Shape} {normal : Json} (hfields : fs.fields = [slot]) (hget : get slot.name = some j)
    (hfit : slot.shape.fit j = .ok normal) (hnull : normal ≠ .null)
    (hview : ∀ found : Members, found.lookup slot.name = some normal → fs.view found = some a) :
    fs.ReadsFrom get a where
  takes other hother := by
    rw [hfields, List.mem_singleton] at hother
    rw [hother, hget]
    exact ⟨normal, hfit, hnull⟩
  view found hfound := by
    refine hview found ?_
    rw [hfound slot (hfields ▸ List.mem_singleton_self slot), hget, Slot.normal?_some hfit]

/-- A member that its slot does without is read as what stands for it. -/
theorem of_none {slot : Slot Shape} (hfields : fs.fields = [slot]) (hget : get slot.name = none)
    (htakes : slot.Takes none) (hview : ∀ found : Members, found.lookup slot.name = none → fs.view found = some a) :
    fs.ReadsFrom get a where
  takes other hother := by
    rw [hfields, List.mem_singleton] at hother
    rwa [hother, hget]
  view found hfound := by
    refine hview found ?_
    rw [hfound slot (hfields ▸ List.mem_singleton_self slot), hget]
    rfl

theorem required (hget : get name = some j) (h : d.Reads j a) : (Fields.required name d).ReadsFrom get a := by
  obtain ⟨-, normal, hfit, hnull, hview⟩ := h
  refine of_some rfl hget hfit hnull fun found hfound ↦ ?_
  exact (congrArg (·.bind d.view) hfound).trans hview

theorem defaulted {value : α} (hget : get name = some j) (h : d.Reads j a) :
    (Fields.defaulted name value d).ReadsFrom get a := by
  obtain ⟨-, normal, hfit, hnull, hview⟩ := h
  refine of_some rfl hget hfit hnull fun found hfound ↦ ?_
  replace hfound : found.lookup name = some normal := hfound
  simp only [Fields.defaulted, hfound, hview]

/-- A member with a default may be left out where it has that value. -/
theorem default (hget : get name = none) : (Fields.defaulted name a d).ReadsFrom get a := by
  refine of_none rfl hget (.inl rfl) fun found hfound ↦ ?_
  replace hfound : found.lookup name = none := hfound
  simp only [Fields.defaulted, hfound]

/-- A member for which `null` may stand is there exactly if there is a value. -/
private theorem orNull {absence : Absence} {write : α → Json} {value : Option α}
    (habsence : absence = .omitted ∨ absence = .refusedInList) (hget : get name = value.map write)
    (h : ∀ a, d.Reads (write a) a) :
    (⟨[⟨name, absence, .orNull d.shape⟩], viewOptional name d⟩ : Fields (Option α)).ReadsFrom get value := by
  cases value with
  | none =>
    refine of_none rfl hget habsence fun found hfound ↦ ?_
    simp only [viewOptional, hfound]
  | some a =>
    obtain ⟨hj, normal, hfit, hnull, hview⟩ := h a
    refine of_some rfl hget ((Shape.fit_orNull hj).trans hfit) hnull fun found hfound ↦ ?_
    simp only [viewOptional, hfound, hview, Option.map_some]

theorem optional {write : α → Json} {value : Option α} (hget : get name = value.map write)
    (h : ∀ a, d.Reads (write a) a) : (Fields.optional name d).ReadsFrom get value := orNull (.inl rfl) hget h

theorem nullable {write : α → Json} {value : Option α} (hget : get name = value.map write)
    (h : ∀ a, d.Reads (write a) a) : (Fields.nullable name d).ReadsFrom get value := orNull (.inr rfl) hget h

end Fields.ReadsFrom

variable {parts : List (String × Option Json)}

/-- What was found is a complete record, which stands for the value, if every slot found what it makes of its member. -/
theorem Fields.ReadsFrom.complete {found : Members} (h : fs.ReadsFrom get a) (hslots : (fs.fields.map Slot.name).Nodup)
    (hfound : ∀ slot ∈ fs.fields, found.lookup slot.name = slot.normal? (get slot.name)) :
    ∃ normals, Shape.complete fs.fields found = .ok normals ∧ fs.view normals = some a := by
  refine ⟨_, Shape.complete_eq fun slot hslot ↦ ?_, h.view _ fun slot hslot ↦ ?_⟩
  · have htakes := h.takes slot hslot
    rw [hfound slot hslot]
    cases hget : get slot.name with
    | none => exact .inl ⟨rfl, hget ▸ htakes⟩
    | some j =>
      rw [hget] at htakes
      obtain ⟨normal, hfit, hnull⟩ := htakes
      exact .inr ⟨normal, Slot.normal?_some hfit, hnull⟩
  · have hnames : ((fs.fields.map fun slot ↦ (slot.name, found.lookup slot.name)).map Prod.fst).Nodup := by
      rw [List.map_map]
      exact hslots
    have hpart := (Dict.lookup_eq_some_iff_mem hnames).2 (List.mem_map_of_mem hslot)
    rw [lookup_present hnames, hpart, Option.join_some, hfound slot hslot]

/-- The normal form of a record whose members are read as a value stands for it. -/
theorem Fields.ReadsFrom.fit_record (h : fs.ReadsFrom (fun name ↦ (parts.lookup name).join) a)
    (hslots : (fs.fields.map Slot.name).Nodup) (hparts : (parts.map Prod.fst).Nodup) (style : Style) (kind : String) :
    ∃ normals, (Shape.record style kind fs.fields).fit (.ofFields parts) = .ok (.object normals) ∧
      fs.view normals = some a := by
  have hget (slot : Slot Shape) : (present parts).lookup slot.name = (parts.lookup slot.name).join :=
    lookup_present hparts slot.name
  have htakes : ∀ slot ∈ fs.fields, ∀ value, (slot.name, value) ∈ present parts → slot.Takes (some value) := by
    intro slot hslot value hmem
    rw [← (Dict.lookup_eq_some_iff_mem (nodup_present hparts)).2 hmem, hget]
    exact h.takes slot hslot
  have hnew : ∀ member ∈ present parts, Shape.isThere [] member.1 = false := fun _ _ ↦ rfl
  obtain ⟨fitted, hfold, hlookup⟩ := foldlM_fitStep style hslots (nodup_present hparts) hnew htakes
  obtain ⟨normals, hcomplete, hview⟩ := h.complete hslots fun slot hslot ↦ by
    rw [hlookup slot hslot, hget, List.lookup_nil, Option.or_none]
  refine ⟨normals, ?_, hview⟩
  rw [ofFields_eq, Shape.fit_record, hfold]
  change (Shape.complete fs.fields fitted).map Json.object = _
  rw [hcomplete]
  rfl

/-- A record whose members are read as a value is read as that value. -/
theorem Fields.ReadsFrom.reads (h : fs.ReadsFrom (fun name ↦ (parts.lookup name).join) a)
    (hslots : (fs.fields.map Slot.name).Nodup) (hparts : (parts.map Prod.fst).Nodup) (style : Style) (kind : String) :
    (fs.record style kind).Reads (.ofFields parts) a := by
  obtain ⟨normals, hfit, hview⟩ := h.fit_record hslots hparts style kind
  exact ⟨by simp [ofFields_eq], _, hfit, by simp, hview⟩

/-- A record that a value is read from is no `null`, and neither is its normal form. -/
theorem Fields.record_reads_of_ofJson {style : Style} {kind : String} {members : Members}
    (h : (fs.record style kind).ofJson (.object members) = some a) : (fs.record style kind).Reads (.object members) a := by
  obtain ⟨normal, hnormal, hview⟩ := Option.bind_eq_some_iff.1 h
  cases hfit : (fs.record style kind).shape.fit (.object members) with
  | error fault =>
    rw [hfit] at hnormal
    cases hnormal
  | ok found =>
    rw [hfit] at hnormal
    cases hnormal
    refine ⟨by simp, normal, hfit, ?_, hview⟩
    rintro rfl
    cases hview

/-- A record is brought into its normal form by the shape of the variant that it names. -/
theorem Shape.fitVariant_eq {tag : String} {names : List String} {rest : Json} {members : Members}
    {variants : List (String × Decoder α)} (hvariant : variants.lookup name = some d)
    (hfit : d.shape.fit rest = .ok (.object members)) :
    Shape.fitVariant tag names (.string name) rest (variants.map fun (name, d) ↦ (name, d.shape)) =
      .ok (.object ((tag, .string name) :: members)) := by
  induction variants with
  | nil => cases hvariant
  | cons variant variants ih =>
    obtain ⟨other, found⟩ := variant
    rw [List.map_cons, Shape.fitVariant]
    by_cases hname : name = other
    · subst hname
      rw [List.lookup_cons_self] at hvariant
      cases hvariant
      rw [if_pos rfl, hfit]
      rfl
    · rw [List.lookup_cons, beq_false_of_ne hname] at hvariant
      rw [if_neg fun h ↦ hname (Json.string.inj h)]
      exact ih hvariant

/-- A record is read as one of the variant that it names. -/
theorem Fields.ReadsFrom.reads_tagged {variants : List (String × Decoder α)} {style : Style} {kind kind' tag : String}
    (h : fs.ReadsFrom (fun name ↦ (parts.lookup name).join) a)
    (hslots : (fs.fields.map Slot.name).Nodup) (hparts : (tag :: parts.map Prod.fst).Nodup)
    (hvariant : variants.lookup name = some (fs.record style kind')) :
    (Decoder.tagged kind tag variants).Reads (.ofFields ((tag, some (.string name)) :: parts)) a := by
  obtain ⟨htag, hparts⟩ := List.nodup_cons.1 hparts
  obtain ⟨normals, hfit, hview⟩ := h.fit_record hslots hparts style kind'
  have hother : ∀ member ∈ present parts, member.1 ≠ tag := by
    rintro ⟨_, value⟩ hmem rfl
    exact htag (List.mem_map.2 ⟨_, mem_present.1 hmem, rfl⟩)
  have hnamed : (present parts).filter (·.1 = tag) = [] := List.filter_eq_nil_iff.2 fun member hmem ↦ by
    simp [hother member hmem]
  have hrest : (present parts).filter (·.1 ≠ tag) = present parts := List.filter_eq_self.2 fun member hmem ↦ by
    simp [hother member hmem]
  refine ⟨by simp [ofFields_eq], .object ((tag, .string name) :: normals), ?_, by simp, ?_⟩
  · change Shape.fit (.tagged kind tag _) (.object ((tag, .string name) :: present parts)) = _
    rw [Shape.fit, List.filter_cons_of_pos (by simp), hnamed, List.filter_cons_of_neg (by simp), hrest]
    exact Shape.fitVariant_eq hvariant hfit
  · change (variants.lookup name).bind (·.view (.object normals)) = some a
    rw [hvariant]
    exact hview

end Reads

/-! ## Values -/

namespace Decoder

theorem text_reads (s : String) : text.Reads (.string s) s := ⟨by simp, .string s, rfl, by simp, rfl⟩

theorem truth_reads (b : Bool) : truth.Reads (.bool b) b := ⟨by simp, .bool b, rfl, by simp, rfl⟩

/-- An integer is read as what it stands for, if it is within the bounds. -/
theorem integer_reads {signed : Bool} {bits : Nat} {ofInt : Int → α} {n : Int} {a : α}
    (hbounds : (Shape.integer signed bits).fit (.int n) = .ok (.int n)) (h : ofInt n = a) :
    (integer signed bits ofInt).Reads (.int n) a :=
  ⟨by simp [Json.int], .int n, hbounds, by simp [Json.int], congrArg some h⟩

theorem int32_reads (n : Int32) : int32.Reads (.int n.toInt) n := by
  have hlow : -2147483648 ≤ n.toInt := n.le_toInt
  have hhigh : n.toInt ≤ 2147483647 := Int.le_of_lt_add_one n.toInt_lt
  exact integer_reads (if_pos ⟨hlow, hhigh⟩) n.ofInt_toInt

theorem int64_reads (n : Int64) : int64.Reads (.int n.toInt) n := by
  have hlow : -9223372036854775808 ≤ n.toInt := n.le_toInt
  have hhigh : n.toInt ≤ 9223372036854775807 := Int.le_of_lt_add_one n.toInt_lt
  exact integer_reads (if_pos ⟨hlow, hhigh⟩) n.ofInt_toInt

theorem uint32_reads (n : UInt32) : uint32.Reads (.nat n.toNat) n := by
  have hlow : (0 : Int) ≤ n.toNat := Int.natCast_nonneg _
  have hhigh : (n.toNat : Int) ≤ 4294967295 := Int.le_of_lt_add_one (Int.ofNat_lt.2 n.toNat_lt)
  exact integer_reads (if_pos ⟨hlow, hhigh⟩) n.ofNat_toNat

/-- What brings every item into its normal form, to be viewed as a value, does so with all of them. -/
theorem exists_mapM {γ δ ε : Type} {fit : γ → Except ε δ} {view : δ → Option α} {write : α → γ}
    (h : ∀ a, ∃ normal, fit (write a) = .ok normal ∧ view normal = some a) (as : List α) :
    ∃ normals, (as.map write).mapM fit = .ok normals ∧ normals.mapM view = some as := by
  induction as with
  | nil => exact ⟨[], rfl, rfl⟩
  | cons a as ih =>
    obtain ⟨normals, hfit, hview⟩ := ih
    obtain ⟨normal, hfirst, hvalue⟩ := h a
    refine ⟨normal :: normals, ?_, ?_⟩
    · rw [List.map_cons, List.mapM_cons, hfirst, hfit]
      rfl
    · rw [List.mapM_cons, hvalue, hview]
      rfl

/-- Viewing entries as values leaves their keys. -/
theorem map_fst_of_mapM_view {view : Json → Option α} {normals : Members} {entries : List (String × α)}
    (h : normals.mapM (fun entry ↦ (view entry.2).map (entry.1, ·)) = some entries) :
    normals.map Prod.fst = entries.map Prod.fst := by
  induction normals generalizing entries with
  | nil => cases h; rfl
  | cons normal normals ih =>
    simp only [List.mapM_cons, Option.bind_eq_bind, Option.bind_eq_some_iff, Option.map_eq_some_iff,
      Option.pure_def, Option.some_inj] at h
    obtain ⟨_, ⟨value, -, rfl⟩, rest, hrest, rfl⟩ := h
    exact congrArg (normal.1 :: ·) (ih hrest)

variable {item : Decoder α} {write : α → Json}

/-- A list is read as the values of its items. -/
theorem list_reads (h : ∀ a, item.Reads (write a) a) (as : List α) :
    (list item).Reads (.array (as.map write)) as := by
  have hitem : ∀ a, ∃ normal, item.shape.fit (write a) = .ok normal ∧ item.view normal = some a := by
    intro a
    obtain ⟨-, normal, hfit, -, hview⟩ := h a
    exact ⟨normal, hfit, hview⟩
  obtain ⟨normals, hfit, hview⟩ := exists_mapM hitem as
  refine ⟨by simp, .array normals, ?_, by simp, hview⟩
  change Shape.fit (.list item.shape) _ = _
  rw [Shape.fit, hfit]
  rfl

/-- A dictionary is read as the values under its keys. -/
theorem dict_reads (h : ∀ a, item.Reads (write a) a) (as : Dict α) :
    (dict item).Reads (.object (as.toList.map fun (name, a) ↦ (name, write a))) as := by
  have hentry : ∀ entry : String × α, ∃ normal : String × Json,
      (item.shape.fit (write entry.2)).map (entry.1, ·) = .ok normal ∧
        (item.view normal.2).map (normal.1, ·) = some entry := by
    intro entry
    obtain ⟨-, normal, hfit, -, hview⟩ := h entry.2
    exact ⟨(entry.1, normal), by rw [hfit]; rfl, by rw [hview]; rfl⟩
  obtain ⟨normals, hfit, hview⟩ : ∃ normals : Members, (as.toList.map fun (name, a) ↦ (name, write a)).mapM
        (fun (name, j) ↦ (item.shape.fit j).map (name, ·)) = .ok normals ∧
      normals.mapM (fun entry ↦ (item.view entry.2).map (entry.1, ·)) = some as.toList := exists_mapM hentry as.toList
  have hsorted : normals.Pairwise fun a b ↦ a.1 < b.1 := by
    have hkeys : (normals.map Prod.fst).Pairwise (· < ·) := by
      rw [map_fst_of_mapM_view hview]
      exact List.pairwise_map.2 as.sorted
    exact List.pairwise_map.1 hkeys
  refine ⟨by simp, .object normals, ?_, by simp, ?_⟩
  · change Shape.fit (.dict item.shape) _ = _
    rw [Shape.fit, hfit]
    exact congrArg (fun d : Dict Json ↦ Except.ok (Json.object d.toList)) (Dict.ofList_toList ⟨normals, hsorted⟩)
  · change (normals.mapM fun entry ↦ (item.view entry.2).map (entry.1, ·)).map Dict.ofList = some as
    rw [hview]
    exact congrArg some as.ofList_toList

end Decoder

end GaleraOperator.Json
