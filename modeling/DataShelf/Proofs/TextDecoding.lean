import DataShelf.Proofs.Verbatim

/-!
# Decoding text and decoding values

A decoder takes values out of a text without reading the text first. It is `Uniform` if that comes
to the same: a text that it takes spells a value that it takes, and a value that names each key of
an object once is taken from its text as it is taken by itself. Scalars are decoded so, and with them
lists and records that keep the keys that are no fields (`uniform_list`, `uniform_openDecoder`).
-/

namespace DataShelf.Json
set_option autoImplicit false

/-- A decoder takes from a text what it takes from the value that the text spells. -/
structure Decoder.Uniform {α : Type} (d : Decoder α) : Prop where
  accepts : ∀ {depth cs a rest}, d.ofText depth cs = .ok (a, rest) →
    ∃ j, verbatim depth cs = .ok (j, rest) ∧ ∃ a', d.ofJson j = .ok a'
  takes : ∀ {depth cs j a rest}, verbatim depth cs = .ok (j, rest) → j.KeysOnce →
    d.ofJson j = .ok a → d.ofText depth cs = .ok (a, rest)

section Basic

variable {α β : Type} {d : Decoder α}

/-- What is made of a value is taken alike from a text and from its value. -/
theorem uniform_map (f : α → β) (h : d.Uniform) : (d.map f).Uniform where
  accepts := by
    intro depth cs b rest read
    obtain ⟨⟨a, end_⟩, here, same⟩ := map_eq_ok_iff.1 read
    obtain ⟨rfl, rfl⟩ := Prod.mk.inj same
    obtain ⟨j, spelled, a', taken⟩ := h.accepts here
    exact ⟨j, spelled, f a', map_eq_ok_iff.2 ⟨a', taken, rfl⟩⟩
  takes := by
    intro depth cs j b rest spelled once taken
    obtain ⟨a, here, rfl⟩ := map_eq_ok_iff.1 taken
    exact map_eq_ok_iff.2 ⟨(a, rest), h.takes spelled once here, rfl⟩

theorem wrongTypeHere_ne_ok (wanted : String) (cs : List Char) (r : α × List Char) :
    Decoder.wrongTypeHere wanted cs ≠ .ok r := by
  unfold Decoder.wrongTypeHere
  repeat' split
  all_goals nofun

/-! ### Scalars -/

/-- What begins with a bracket or a brace is no scalar. -/
theorem ne_bracket_of_scalar {c : Char} {cs rest : List Char} {j : Json}
    (read : scalar (c :: cs) = .ok (j, rest)) : (c == '[' || c == '\x7b') = false := by
  rw [Bool.or_eq_false_iff]
  constructor <;> refine beq_false_of_ne ?_ <;> rintro rfl <;> cases read

/-- A decoder of scalars takes alike from a text and from its value. -/
theorem uniform_scalarOf {wanted : String} {take : Json → Option (Except Mismatch α)}
    (flat : ∀ j, j.isContainer = true → take j = none) :
    (Decoder.scalarOf wanted take).Uniform where
  accepts := by
    intro depth cs a rest read
    simp only [Decoder.scalarOf] at read ⊢
    split at read
    · cases read
    · next c behind dark =>
      split at read
      · exact absurd read (wrongTypeHere_ne_ok _ _ _)
      · split at read
        · cases read
        · next j end_ here =>
          split at read
          · next a' given =>
            obtain ⟨rfl, rfl⟩ := Prod.mk.inj (Except.ok.inj read)
            exact ⟨j, valueBy_of_scalar (dark ▸ here) depth, a', by rw [given]; rfl⟩
          · cases read
          · cases read
  takes := by
    intro depth cs j a rest spelled _ taken
    have given : take j = some (.ok a) := by
      simp only [Decoder.scalarOf] at taken
      cases given : take j with
      | none => simp [given] at taken
      | some outcome => simpa [given] using taken
    rcases valueBy_cases spelled with here | ⟨_, _, l, -, -, -, rfl⟩ | ⟨_, _, l, -, -, -, rfl⟩
    · cases dark : skipSpace cs with
      | nil =>
        rw [dark] at here
        cases here
      | cons c behind =>
        rw [dark] at here
        simp only [Decoder.scalarOf, dark, ne_bracket_of_scalar here, here, given,
          Bool.false_eq_true, if_false]
    · cases (flat (.array l) rfl).symm.trans given
    · cases (flat (.object l) rfl).symm.trans given

theorem uniform_string : Decoder.string.Uniform :=
  uniform_scalarOf fun j container => by cases j <;> simp_all [isContainer]

theorem ofJson_string_eq_ok_iff {j : Json} {s : String} :
    Decoder.string.ofJson j = .ok s ↔ j = .string s := by
  constructor
  · intro taken
    cases j with
    | string s' => exact congrArg Json.string (Except.ok.inj taken)
    | _ => cases taken
  · rintro rfl
    rfl

/-! ### Lists -/

/-- A traversal succeeds if each item does. -/
theorem mapM_eq_ok_iff {ε : Type} {f : α → Except ε β} {l : List α} {l' : List β} :
    l.mapM f = .ok l' ↔ List.Forall₂ (fun a b => f a = .ok b) l l' := by
  induction l generalizing l' with
  | nil => cases l' <;> simp [pure, Except.pure]
  | cons a l ih =>
    rw [List.mapM_cons, bind_eq_ok_iff]
    constructor
    · rintro ⟨b, here, later⟩
      obtain ⟨bs, others, same⟩ := bind_eq_ok_iff.1 later
      obtain rfl := Except.ok.inj same
      exact .cons here (ih.1 others)
    · rintro (_ | ⟨here, later⟩)
      exact ⟨_, here, bind_eq_ok_iff.2 ⟨_, ih.2 later, rfl⟩⟩

/-- Each item on one side has one on the other. -/
theorem exists_of_forall₂ {R : α → β → Prop} {l : List α} {l' : List β} (h : List.Forall₂ R l l')
    {a : α} (member : a ∈ l) : ∃ b, R a b := by
  induction h with
  | nil => cases member
  | cons here _ ih =>
    rcases List.mem_cons.1 member with rfl | later
    · exact ⟨_, here⟩
    · exact ih later

/-- A traversal succeeds where each item can. -/
theorem exists_mapM {ε γ : Type} {f : α → Except ε β} {l₀ : List γ} {l : List α}
    (each : List.Forall₂ (fun _ a => ∃ b, f a = .ok b) l₀ l) : ∃ l', l.mapM f = .ok l' := by
  induction each with
  | nil => exact ⟨[], rfl⟩
  | cons here _ ih =>
    obtain ⟨b, here⟩ := here
    obtain ⟨l', later⟩ := ih
    exact ⟨b :: l', mapM_eq_ok_iff.2 (.cons here (mapM_eq_ok_iff.1 later))⟩

/-- A list is taken alike from a text and from its value if its items are. -/
theorem uniform_list (h : d.Uniform) : (Decoder.list d).Uniform where
  accepts := by
    intro depth cs a rest read
    simp only [Decoder.list] at read
    split at read
    · cases read
    · next behind bracket =>
      cases depth with
      | zero => cases read
      | succ inner =>
        have each (cs : List Char) (a : α) (rest : List Char)
            (item : d.ofText inner cs = .ok (a, rest)) (_ : True) :
            ∃ j, verbatim inner cs = .ok (j, rest) ∧ ∃ a', d.ofJson j = .ok a' :=
          h.accepts item
        obtain ⟨after, content, shut⟩ := closing_eq_ok_iff.1 read
        obtain ⟨l, spelled, taken⟩ := items_transfer each content fun _ _ => trivial
        exact ⟨.array l, valueBy_of_list bracket (closing_eq_ok_iff.2 ⟨after, spelled, shut⟩),
          exists_mapM taken⟩
    · exact absurd read (wrongTypeHere_ne_ok _ _ _)
  takes := by
    intro depth cs j a rest spelled once taken
    rcases valueBy_cases spelled with scalar | ⟨inner, behind, l, rfl, bracket, content, rfl⟩ |
      ⟨_, _, l, -, -, -, rfl⟩
    · cases j with
      | array => cases isContainer_of_scalar scalar
      | _ => cases taken
    · have each (cs : List Char) (j : Json) (rest : List Char)
          (item : verbatim inner cs = .ok (j, rest))
          (known : j.KeysOnce ∧ ∃ b, d.ofJson j = .ok b) :
          ∃ b, d.ofText inner cs = .ok (b, rest) ∧ d.ofJson j = .ok b := by
        obtain ⟨once, b, here⟩ := known
        exact ⟨b, h.takes item once here, here⟩
      have taken := mapM_eq_ok_iff.1 taken
      have known : ∀ j ∈ l, j.KeysOnce ∧ ∃ b, d.ofJson j = .ok b := fun j member =>
        ⟨once.items j member, exists_of_forall₂ taken member⟩
      obtain ⟨after, content, shut⟩ := closing_eq_ok_iff.1 content
      obtain ⟨l', read, taken'⟩ := items_transfer each content known
      obtain rfl : a = l' := by
        have same := mapM_eq_ok_iff.2 taken
        rw [mapM_eq_ok_iff.2 taken'] at same
        exact (Except.ok.inj same).symm
      simp only [Decoder.list, bracket]
      exact closing_eq_ok_iff.2 ⟨after, read, shut⟩
    · cases taken

end Basic

/-! ### Records that keep other keys -/

section Records

variable {σ : Type} (l : Layout σ) (other : String → Json → σ → σ)

/-- What a member of an object changes in a record. Keys that are no fields go to `other`. -/
def Layout.takeMember (record : σ) (member : String × Json) : Except Mismatch σ :=
  match l.field? member.1 with
  | some f => (f.decoder.ofJson member.2).map fun change => change record
  | none => .ok (other member.1 member.2 record)

/-- How the value under a key that is no field is read. -/
def Layout.keeping (other : String → Json → σ → σ) (depth : Nat) (key : String) (cs : List Char) :
    Reading (σ → σ) :=
  (value depth cs).map fun r => (other key r.1, r.2)

variable {l other}

theorem Layout.of_field? {key : String} {f : Field σ} (known : l.field? key = some f) :
    f ∈ l.fields ∧ f.name = key :=
  ⟨List.mem_of_find?_eq_some known, by simpa using List.find?_some known⟩

theorem Layout.missing?_eq_none_iff {seen : List String} : l.missing? seen = none ↔
    ∀ f ∈ l.fields, f.presence = .required → f.name ∈ seen := by
  simp [Layout.missing?, List.find?_eq_none]

/-- A record is taken member by member, and nothing that must be there may be missing. -/
theorem ofJson_openDecoder_eq_ok_iff {j : Json} {record : σ} :
    (l.openDecoder other).ofJson j = .ok record ↔ ∃ fields, j = .object fields ∧
      fields.foldlM (l.takeMember other) l.blank = .ok record ∧
      ∀ f ∈ l.fields, f.presence = .required → f.name ∈ fields.map (·.1) := by
  cases j with
  | object fields =>
    have unfolded : (l.openDecoder other).ofJson (.object fields) =
        fields.foldlM (l.takeMember other) l.blank >>= fun record =>
          match l.missing? (fields.map (·.1)) with
          | some f => .error (.missingField f.name)
          | none => .ok record := rfl
    simp only [unfolded, bind_eq_ok_iff, ← Layout.missing?_eq_none_iff, Json.object.injEq,
      exists_eq_left']
    cases l.missing? (fields.map (·.1)) <;> simp
  | _ => exact ⟨nofun, nofun⟩

/-- Members are taken if those that are fields are. -/
theorem Layout.exists_foldlM {fields : Fields}
    (each : ∀ e ∈ fields, ∀ f, l.field? e.1 = some f → ∃ change, f.decoder.ofJson e.2 = .ok change)
    (record : σ) : ∃ taken, fields.foldlM (l.takeMember other) record = .ok taken := by
  induction fields generalizing record with
  | nil => exact ⟨record, rfl⟩
  | cons e rest ih =>
    obtain ⟨here, later⟩ := List.forall_mem_cons.1 each
    obtain ⟨between, step⟩ : ∃ between, l.takeMember other record e = .ok between := by
      unfold Layout.takeMember
      split
      · next f known =>
        obtain ⟨change, taken⟩ := here f known
        exact ⟨change record, by rw [taken]; rfl⟩
      · exact ⟨_, rfl⟩
    obtain ⟨taken, folded⟩ := ih later between
    exact ⟨taken, by rw [List.foldlM_cons, step]; exact folded⟩

variable {inner : Nat} {clock : List Char} {first : Bool} {seen : List String} {record taken : σ}
  {cs rest : List Char}

/-- The members that a record is read from are spelled there, those that are fields are taken by
themselves, and what must be there is. The clock does not run out before the text, for each round
takes a character off both. -/
theorem Layout.spelled_of_ofMembers (uniform : ∀ f ∈ l.fields, f.decoder.Uniform)
    (time : cs.length ≤ clock.length)
    (read : l.ofMembers (keeping other inner) inner clock first seen record cs =
      .ok (taken, rest)) :
    ∃ fields, items nextKey (member (verbatim inner)) clock first cs = .ok (fields, rest) ∧
      (∀ e ∈ fields, ∀ f, l.field? e.1 = some f → ∃ change, f.decoder.ofJson e.2 = .ok change) ∧
      ∀ f ∈ l.fields, f.presence = .required → f.name ∈ seen ∨ f.name ∈ fields.map (·.1) := by
  induction clock generalizing first seen record cs with
  | nil =>
    obtain rfl := List.eq_nil_of_length_eq_zero (Nat.le_zero.1 time)
    cases read
  | cons tick ticks ih =>
    rw [ofMembers] at read
    obtain ⟨⟨more, here⟩, found, read⟩ := bind_eq_ok_iff.1 read
    cases more with
    | false =>
      simp only [Bool.false_eq_true, if_false] at read
      split at read
      · cases read
      · next whole =>
        obtain ⟨rfl, rfl⟩ := Prod.mk.inj (Except.ok.inj read)
        refine ⟨[], items_stop found _, by simp, fun f known must => ?_⟩
        exact .inl (missing?_eq_none_iff.1 whole f known must)
    | true =>
      have room := length_of_nextKey found
      simp only [if_true] at read
      obtain ⟨⟨key, behind⟩, named, read⟩ := bind_eq_ok_iff.1 read
      have shorter := (leaves_text _ key behind named).length_le
      -- What one member leaves is shorter than the clock that is left.
      have further {value onwards : List Char} {j : Json} (marked : colon behind = .ok ((), value))
          (spelled : verbatim inner value = .ok (j, onwards)) :
          member (verbatim inner) here = .ok ((key, j), onwards) ∧
            onwards.length ≤ ticks.length := by
        have taken := (leaves_colon _ () value marked).length_le
        have taken' := (leaves_valueBy id inner value j onwards spelled).length_le
        refine ⟨member_eq_ok_iff.2 ⟨behind, value, named, marked, spelled⟩, ?_⟩
        simp only [List.length_cons] at time
        omega
      dsimp only at read
      split at read
      · next f known =>
        obtain ⟨field, rfl⟩ := of_field? known
        split at read
        · cases read
        · obtain ⟨⟨⟨⟩, value⟩, marked, read⟩ := bind_eq_ok_iff.1 read
          obtain ⟨⟨change, onwards⟩, took, read⟩ := bind_eq_ok_iff.1 read
          obtain ⟨j, spelled, change', itself⟩ := (uniform f field).accepts took
          obtain ⟨item, time'⟩ := further marked spelled
          obtain ⟨fields, later, each, there⟩ := ih time' read
          refine ⟨(f.name, j) :: fields, items_step found item later tick,
            List.forall_mem_cons.2 ⟨?_, each⟩, fun f' known' must => ?_⟩
          · rintro f' known'
            obtain rfl := Option.some.inj (known.symm.trans known')
            exact ⟨change', itself⟩
          · rcases there f' known' must with old | new
            · rcases List.mem_cons.1 old with same | old
              · exact .inr (same ▸ List.mem_cons_self)
              · exact .inl old
            · exact .inr (List.mem_cons_of_mem _ new)
      · next unknown =>
        obtain ⟨⟨⟨⟩, value⟩, marked, read⟩ := bind_eq_ok_iff.1 read
        obtain ⟨⟨change, onwards⟩, kept, read⟩ := bind_eq_ok_iff.1 read
        obtain ⟨⟨v, end_⟩, valued, same⟩ := map_eq_ok_iff.1 kept
        obtain ⟨-, rfl⟩ := Prod.mk.inj same
        obtain ⟨j, spelled⟩ := exists_verbatim_of_value valued
        obtain ⟨item, time'⟩ := further marked spelled
        obtain ⟨fields, later, each, there⟩ := ih time' read
        refine ⟨(key, j) :: fields, items_step found item later tick,
          List.forall_mem_cons.2 ⟨fun f known => ?_, each⟩, fun f known must => ?_⟩
        · cases unknown.symm.trans known
        · exact (there f known must).imp_right (List.mem_cons_of_mem _)

/-- Members that name each key once are read into a record as they are taken by themselves. -/
theorem Layout.ofMembers_of_spelled (uniform : ∀ f ∈ l.fields, f.decoder.Uniform) {fields : Fields}
    (spelled : items nextKey (member (verbatim inner)) clock first cs = .ok (fields, rest))
    (once : (fields.map (·.1)).Nodup) (inside : ∀ e ∈ fields, e.2.KeysOnce)
    (fresh : ∀ e ∈ fields, e.1 ∉ seen)
    (folded : fields.foldlM (l.takeMember other) record = .ok taken)
    (there : ∀ f ∈ l.fields, f.presence = .required →
      f.name ∈ seen ∨ f.name ∈ fields.map (·.1)) :
    l.ofMembers (keeping other inner) inner clock first seen record cs = .ok (taken, rest) := by
  induction clock generalizing first seen record cs fields with
  | nil =>
    obtain ⟨⟨more, here⟩, found, same⟩ :=
      bind_eq_ok_iff.1 (items.eq_1 nextKey (member (verbatim inner)) first cs ▸ spelled)
    obtain ⟨rfl, rfl⟩ := Prod.mk.inj (Except.ok.inj same)
    cases folded
    simp [ofMembers, found, Except.bind]
  | cons tick ticks ih =>
    rw [items] at spelled
    obtain ⟨⟨more, here⟩, found, spelled⟩ := bind_eq_ok_iff.1 spelled
    rw [ofMembers, found]
    cases more with
    | false =>
      obtain ⟨rfl, rfl⟩ := Prod.mk.inj (Except.ok.inj spelled)
      cases folded
      have whole : l.missing? seen = none :=
        missing?_eq_none_iff.2 fun f known must => (there f known must).resolve_right (by simp)
      simp [bind, Except.bind, whole]
    | true =>
      obtain ⟨⟨⟨key, j⟩, onwards⟩, item, spelled⟩ := bind_eq_ok_iff.1 spelled
      obtain ⟨⟨others, end_⟩, later, spelled⟩ := bind_eq_ok_iff.1 spelled
      obtain ⟨rfl, rfl⟩ := Prod.mk.inj (Except.ok.inj spelled)
      obtain ⟨behind, value, named, marked, valued⟩ := member_eq_ok_iff.1 item
      obtain ⟨new, once⟩ := List.nodup_cons.1 once
      obtain ⟨single, inside⟩ := List.forall_mem_cons.1 inside
      obtain ⟨unseen, fresh⟩ := List.forall_mem_cons.1 fresh
      rw [List.foldlM_cons] at folded
      obtain ⟨between, step, folded⟩ := bind_eq_ok_iff.1 folded
      unfold takeMember at step
      simp only [bind, Except.bind, if_true, named]
      split at step
      · next f known =>
        obtain ⟨change, itself, rfl⟩ := map_eq_ok_iff.1 step
        obtain ⟨field, same⟩ := of_field? known
        have took := (uniform f field).takes valued single itself
        simp only [known, List.contains_eq_mem, unseen, decide_false, Bool.false_eq_true, if_false,
          marked, took]
        refine ih later once inside (fun e member => ?_) folded fun f' known' must => ?_
        · rw [List.mem_cons, not_or]
          exact ⟨fun same => new (List.mem_map.2 ⟨e, member, same⟩), fresh e member⟩
        · rcases there f' known' must with old | named
          · exact .inl (List.mem_cons_of_mem _ old)
          · exact (List.mem_cons.1 named).imp_left fun here => List.mem_cons.2 (.inl here)
      · next unknown =>
        obtain rfl := Except.ok.inj step
        have kept : keeping other inner key value = .ok (other key j, onwards) := by
          rw [keeping, value_of_verbatim valued single]
          rfl
        simp only [unknown, marked, kept]
        refine ih later once inside fresh folded fun f known must => ?_
        refine (there f known must).imp_right fun named => (List.mem_cons.1 named).resolve_left ?_
        rintro rfl
        exact List.find?_eq_none.1 unknown f known (by simp)

variable (other) in
/-- Records that keep the keys that are no fields are taken from text as from values, if their
fields are. -/
theorem uniform_openDecoder (uniform : ∀ f ∈ l.fields, f.decoder.Uniform) :
    (l.openDecoder other).Uniform where
  accepts := by
    intro depth cs record rest read
    simp only [Layout.openDecoder] at read
    split at read
    · cases read
    · next c behind dark =>
      split at read
      · next brace =>
        obtain rfl : c = '\x7b' := by simpa using brace
        cases depth with
        | zero => cases read
        | succ inner =>
          obtain ⟨after, content, shut⟩ : ∃ after,
              l.ofMembers (Layout.keeping other inner) inner behind true [] l.blank behind =
                .ok (record, after) ∧ closeObject after = (none, rest) :=
            closing_eq_ok_iff.1 read
          obtain ⟨fields, spelled, each, there⟩ :=
            Layout.spelled_of_ofMembers uniform (Nat.le_refl _) content
          obtain ⟨taken, folded⟩ : ∃ taken,
              fields.foldlM (l.takeMember other) l.blank = .ok taken :=
            Layout.exists_foldlM each l.blank
          refine ⟨.object fields, valueBy_of_object dark
            (closing_eq_ok_iff.2 ⟨after, spelled, shut⟩), taken, ?_⟩
          refine ofJson_openDecoder_eq_ok_iff.2 ⟨fields, rfl, folded, fun f known must => ?_⟩
          exact (there f known must).resolve_left (by simp)
      · exact absurd read (wrongTypeHere_ne_ok _ _ _)
  takes := by
    intro depth cs j record rest spelled once taken
    obtain ⟨fields, rfl, folded, there⟩ := ofJson_openDecoder_eq_ok_iff.1 taken
    obtain ⟨names, inside⟩ := once.fields
    rcases valueBy_cases spelled with scalar | ⟨_, _, _, -, -, -, same⟩ |
      ⟨inner, behind, l', rfl, brace, content, same⟩
    · cases isContainer_of_scalar scalar
    · cases same
    · obtain rfl : fields = l' := Json.object.inj same
      obtain ⟨after, content, shut⟩ := closing_eq_ok_iff.1 content
      simp only [Layout.openDecoder, brace]
      refine closing_eq_ok_iff.2 ⟨after, ?_, shut⟩
      exact Layout.ofMembers_of_spelled uniform content names inside (by simp) folded
        fun f known must => .inr (there f known must)

end Records

/-! ### Whole texts -/

section Whole

variable {α : Type} {d : Decoder α} {s : String}

/-- What is decoded from a text is spelled there, not too deep, and its value is decoded. -/
theorem spells_of_decodeText (h : d.Uniform) {a : α} (decoded : d.decodeText s = .ok a) :
    ∃ j, Spells s j ∧ j.Shallow nestings ∧ ∃ a', d.ofJson j = .ok a' := by
  obtain ⟨rest, read, nothing⟩ := whole_eq_ok_iff.1 decoded
  obtain ⟨j, spelled, taken⟩ := h.accepts read
  exact ⟨j, ⟨nestings, whole_eq_ok_iff.2 ⟨rest, spelled, nothing⟩⟩, shallow_of_verbatim spelled,
    taken⟩

theorem decodeText_of_spells (h : d.Uniform) {j : Json} (spelled : Spells s j) (once : j.KeysOnce)
    (shallow : j.Shallow nestings) {a : α} (taken : d.ofJson j = .ok a) :
    d.decodeText s = .ok a := by
  obtain ⟨rest, read, nothing⟩ := whole_eq_ok_iff.1 (spelled.verbatim shallow)
  exact whole_eq_ok_iff.2 ⟨rest, h.takes read once taken, nothing⟩

end Whole

end DataShelf.Json
