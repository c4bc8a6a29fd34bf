import Passforge.Proofs.JsonDump

/-!
# What an Override Touches

An override is a list of values put into settings, and which ones they are does
not depend on the settings they are put into. So a setting that the text gives
no value keeps the one it had, a setting that it gives a value has the last one
given, and overriding again changes nothing. A text that is no override spoils
the loading as a whole: no setting is loaded, neither from the file nor from the
part of the text that could be read.

## Main definitions

* `Section.Assigns`: Members of a section give a setting a value.
* `Section.LastAssigns`: The last value that they give it.
* `Section.Puts`: The values that members of a section put, in order.
* `Settings.Overlaid`: Settings are what a text makes of others.

## Theorems

* `mergeSection_eq_some_iff`: Merging members is putting the values they put.
* `Section.Puts.get_last`: The last value given to a setting is the one it has.
* `Section.Assigns.exists_last`: Where a value is given, one is the last.
* `overlaid_of_override`: What an override makes of settings.
* `override_touches_only_what_it_names`: An override touches only what it names.
-/

namespace Passforge

namespace Section

/-- Members of a section give a setting a value, either themselves or inside an
    object for a section further in. A null gives nothing. -/
inductive Assigns : Section → List (String × Json.Value) → Setting → Prop
  | setting {home : Section} {members : List (String × Json.Value)} {name : String}
      {v : Json.Value} {l : Setting} (hmem : (name, v) ∈ members) (hl : l ∈ home.settings)
      (hname : Text.sameFolded name l.field = true) (hv : v ≠ .null) : Assigns home members l
  | inside {home c : Section} {members inner : List (String × Json.Value)} {name : String}
      {l : Setting} (hmem : (name, .object inner) ∈ members) (hc : c ∈ home.children)
      (hname : Text.sameFolded name c.field = true) (hin : Assigns c inner l) :
      Assigns home members l

/-- A value is the last one that members of a section give a setting. -/
inductive LastAssigns : Section → List (String × Json.Value) → Setting → Json.Value → Prop
  | setting {home : Section} {rest : List (String × Json.Value)} {name : String}
      {v : Json.Value} {l : Setting} (hl : l ∈ home.settings)
      (hname : Text.sameFolded name l.field = true) (hv : v ≠ .null)
      (hlast : ¬ home.Assigns rest l) : LastAssigns home ((name, v) :: rest) l v
  | inside {home c : Section} {rest inner : List (String × Json.Value)} {name : String}
      {v : Json.Value} {l : Setting} (hc : c ∈ home.children)
      (hname : Text.sameFolded name c.field = true) (hin : LastAssigns c inner l v)
      (hlast : ¬ home.Assigns rest l) : LastAssigns home ((name, .object inner) :: rest) l v
  | later {home : Section} {rest : List (String × Json.Value)} {member : String × Json.Value}
      {v : Json.Value} {l : Setting} (hrest : LastAssigns home rest l v) :
      LastAssigns home (member :: rest) l v

/-- Members of a section put these values, in this order. Each is of the kind
    that its setting takes. -/
inductive Puts : Section → List (String × Json.Value) → List (Setting × Scalar) → Prop
  | nil {home : Section} : Puts home [] []
  | setting {home : Section} {rest : List (String × Json.Value)} {name : String}
      {v : Json.Value} {l : Setting} {x : Scalar} {puts : List (Setting × Scalar)}
      (hl : l ∈ home.settings) (hname : Text.sameFolded name l.field = true)
      (hx : scalarOf l.kind v = some x) (hrest : Puts home rest puts) :
      Puts home ((name, v) :: rest) ((l, x) :: puts)
  | inside {home c : Section} {rest inner : List (String × Json.Value)} {name : String}
      {puts puts' : List (Setting × Scalar)} (hc : c ∈ home.children)
      (hname : Text.sameFolded name c.field = true) (hin : Puts c inner puts)
      (hrest : Puts home rest puts') :
      Puts home ((name, .object inner) :: rest) (puts ++ puts')
  | null {home : Section} {rest : List (String × Json.Value)} {name : String}
      {puts : List (Setting × Scalar)} (hrest : Puts home rest puts) :
      Puts home ((name, .null) :: rest) puts
  | unknown {home : Section} {rest : List (String × Json.Value)} {name : String}
      {v : Json.Value} {puts : List (Setting × Scalar)}
      (hl : ∀ l ∈ home.settings, Text.sameFolded name l.field = false)
      (hc : ∀ c ∈ home.children, Text.sameFolded name c.field = false)
      (hrest : Puts home rest puts) : Puts home ((name, v) :: rest) puts

end Section

/-- A text gives a setting a value. -/
def Assigned (text : String) (l : Setting) : Prop :=
  ∃ members, Json.Value.parse text = some (.object members) ∧ Section.root.Assigns members l

/-- A value is the last one that a text gives a setting. -/
def LastAssigned (text : String) (l : Setting) (v : Json.Value) : Prop :=
  ∃ members, Json.Value.parse text = some (.object members) ∧
    Section.root.LastAssigns members l v

/-- Settings with values put into them, one after the other. -/
def Settings.putAll (s : Settings) (puts : List (Setting × Scalar)) : Settings :=
  puts.foldl (fun s p => s.set p.1 p.2) s

section Fields

variable {home c : Section} {l : Setting} {name : String}

theorem sameFolded_congr {field : String} (h : Text.sameFolded name field = true)
    (other : String) : Text.sameFolded name other = Text.sameFolded field other := by
  unfold Text.sameFolded at *
  rw [beq_iff_eq.mp h]

/-- A name that is a setting's up to case finds the setting. -/
theorem find?_setting (hl : l ∈ home.settings) (hname : Text.sameFolded name l.field = true) :
    home.settings.find? (fun l' => Text.sameFolded name l'.field) = some l := by
  -- The name finds what the field itself finds, and no two fields are alike.
  have hfield := find?_field hl
  simp only [sameFolded_congr hname]
  exact hfield

/-- A name that is a section's up to case finds no setting but the section. -/
theorem find?_child (hc : c ∈ home.children) (hname : Text.sameFolded name c.field = true) :
    home.settings.find? (fun l => Text.sameFolded name l.field) = none ∧
      home.children.find? (fun c' => Text.sameFolded name c'.field) = some c := by
  have hfield := find?_field_of_child hc
  simp only [sameFolded_congr hname]
  exact hfield

end Fields

section Putting

variable (s : Settings) {l : Setting} {puts : List (Setting × Scalar)}

theorem Settings.putAll_append (puts puts' : List (Setting × Scalar)) :
    s.putAll (puts ++ puts') = (s.putAll puts).putAll puts' :=
  List.foldl_append

/-- A setting that nothing is put into keeps its value. -/
theorem Settings.get_putAll_of_notMem (h : l ∉ puts.map Prod.fst) :
    (s.putAll puts).get l = s.get l := by
  induction puts generalizing s with
  | nil => rfl
  | cons p puts ih =>
      rw [List.map_cons, List.mem_cons, not_or] at h
      exact (ih (s.set p.1 p.2) h.2).trans (s.get_set_other p.2 (Ne.symm h.1))

/-- A null is of no kind. -/
theorem scalarOf_null (kind : Kind) : scalarOf kind .null = none := by
  cases kind <;> rfl

theorem kind_of_scalarOf {kind : Kind} {v : Json.Value} {x : Scalar}
    (h : scalarOf kind v = some x) : x.kind = kind := by
  unfold scalarOf at h
  split at h
  · cases h
    rfl
  · obtain ⟨n, -, rfl⟩ := Option.map_eq_some_iff.mp h
    rfl
  · cases h
    rfl
  · cases h

end Putting

section Merging

variable {home : Section} {members : List (String × Json.Value)}
  {puts : List (Setting × Scalar)} {s t : Settings}

theorem mergeSection_cons (depth : Nat) (member : String × Json.Value) :
    mergeSection (depth + 1) home s (member :: members)
      = (mergeMember (mergeSection depth) home s member).bind fun s =>
          mergeSection (depth + 1) home s members :=
  List.foldlM_cons

theorem assign_of_scalarOf {l : Setting} {v : Json.Value} {x : Scalar}
    (h : scalarOf l.kind v = some x) : assign s l v = some (s.set l x) := by
  unfold assign
  split
  · rw [scalarOf_null] at h
    cases h
  · rw [h]
    rfl

/-- Putting the values that members put is merging the members. -/
theorem mergeSection_of_puts (h : home.Puts members puts) (depth : Nat)
    (hdepth : home.height ≤ depth + 1) (s : Settings) :
    mergeSection (depth + 1) home s members = some (s.putAll puts) := by
  -- Along the derivation. The depth goes down where it goes into a section.
  induction h generalizing depth s with
  | nil => rfl
  | setting hl hname hx _ ih =>
      rw [mergeSection_cons, mergeMember, find?_setting hl hname]
      simp only [assign_of_scalarOf hx, Option.bind_some]
      exact ih depth hdepth _
  | @inside home c _ _ _ _ _ hc hname _ _ ihin ih =>
      have hpos := c.height_pos
      have hchild := Section.height_of_child hc
      have hfind := find?_child hc hname
      obtain ⟨depth, rfl⟩ : ∃ k, depth = k + 1 := ⟨depth - 1, by omega⟩
      rw [mergeSection_cons, mergeMember, hfind.1]
      simp only [hfind.2, ihin depth (by omega), Option.bind_some, s.putAll_append]
      exact ih (depth + 1) hdepth _
  | @null home _ name _ _ ih =>
      -- A null changes nothing, whether anybody knows its name or not.
      have hsame : mergeMember (mergeSection depth) home s (name, .null) = some s := by
        unfold mergeMember
        split
        · rfl
        · split <;> rfl
      rw [mergeSection_cons, hsame]
      exact ih depth hdepth s
  | unknown hl hc _ ih =>
      have hsettings := List.find?_eq_none.mpr fun l hmem => Bool.eq_false_iff.mp (hl l hmem)
      have hchildren := List.find?_eq_none.mpr fun c hmem => Bool.eq_false_iff.mp (hc c hmem)
      rw [mergeSection_cons, mergeMember, hsettings]
      simp only [hchildren, Option.bind_some]
      exact ih depth hdepth s

/-- What merging one member does: it puts what the member puts. -/
theorem puts_of_mergeMember {depth : Nat} {member : String × Json.Value}
    (ih : ∀ (c : Section) (inner : List (String × Json.Value)) (s t : Settings),
      mergeSection depth c s inner = some t → c.height ≤ depth →
      ∃ puts, c.Puts inner puts ∧ t = s.putAll puts)
    (hdepth : home.height ≤ depth + 1)
    (h : mergeMember (mergeSection depth) home s member = some t) :
    ∃ front, t = s.putAll front ∧
      ∀ rest puts, home.Puts rest puts → home.Puts (member :: rest) (front ++ puts) := by
  obtain ⟨name, v⟩ := member
  unfold mergeMember at h
  dsimp only at h
  split at h
  · -- The name is a setting's.
    rename_i l hfind
    have hl := List.mem_of_find?_eq_some hfind
    have hname := List.find?_some hfind
    unfold assign at h
    split at h
    · cases h
      exact ⟨[], rfl, fun _ _ hrest => .null hrest⟩
    · obtain ⟨x, hx, rfl⟩ := Option.map_eq_some_iff.mp h
      exact ⟨[(l, x)], rfl, fun _ _ hrest => .setting hl hname hx hrest⟩
  · rename_i hsettings
    split at h
    · -- The name is a section's.
      rename_i c hfind
      have hc := List.mem_of_find?_eq_some hfind
      have hname := List.find?_some hfind
      split at h
      · cases h
        exact ⟨[], rfl, fun _ _ hrest => .null hrest⟩
      · have hchild := Section.height_of_child hc
        obtain ⟨front, hfront, rfl⟩ := ih c _ s t h (by omega)
        exact ⟨front, rfl, fun _ _ hrest => .inside hc hname hfront hrest⟩
      · cases h
    · -- Nobody knows the name.
      rename_i hchildren
      cases h
      refine ⟨[], rfl, fun _ _ hrest => .unknown (fun l hl => ?_) (fun c hc => ?_) hrest⟩
      · exact Bool.eq_false_iff.mpr (List.find?_eq_none.mp hsettings l hl)
      · exact Bool.eq_false_iff.mpr (List.find?_eq_none.mp hchildren c hc)

theorem puts_of_mergeSection (depth : Nat) (home : Section)
    (members : List (String × Json.Value)) (s t : Settings)
    (h : mergeSection depth home s members = some t) (hdepth : home.height ≤ depth) :
    ∃ puts, home.Puts members puts ∧ t = s.putAll puts := by
  -- On the depth for the sections inside, and on the members within one section.
  induction depth generalizing home members s t with
  | zero => exact absurd home.height_pos (by omega)
  | succ depth ih =>
      induction members generalizing s with
      | nil =>
          cases h
          exact ⟨[], .nil, rfl⟩
      | cons member rest ihrest =>
          rw [mergeSection_cons] at h
          obtain ⟨mid, hmember, hmerge⟩ := Option.bind_eq_some_iff.mp h
          obtain ⟨front, rfl, hputs⟩ := puts_of_mergeMember ih hdepth hmember
          obtain ⟨puts, hrest, rfl⟩ := ihrest _ hmerge
          exact ⟨front ++ puts, hputs rest puts hrest, (s.putAll_append front puts).symm⟩

/-- Merging members is putting the values they put, whatever the settings. -/
theorem mergeSection_eq_some_iff {depth : Nat} (hdepth : home.height ≤ depth) :
    mergeSection depth home s members = some t ↔
      ∃ puts, home.Puts members puts ∧ t = s.putAll puts := by
  constructor
  · exact fun h => puts_of_mergeSection depth home members s t h hdepth
  · rintro ⟨puts, hputs, rfl⟩
    have hpos := home.height_pos
    obtain ⟨depth, rfl⟩ : ∃ k, depth = k + 1 := ⟨depth - 1, by omega⟩
    exact mergeSection_of_puts hputs depth hdepth s

end Merging

namespace Section

variable {home : Section} {members rest : List (String × Json.Value)}
  {puts : List (Setting × Scalar)} {l : Setting}

theorem Assigns.cons (h : home.Assigns rest l) (member : String × Json.Value) :
    home.Assigns (member :: rest) l := by
  cases h with
  | setting hmem hl hname hv => exact .setting (List.mem_cons_of_mem _ hmem) hl hname hv
  | inside hmem hc hname hin => exact .inside (List.mem_cons_of_mem _ hmem) hc hname hin

/-- Values are put only into settings that are given one. -/
theorem Puts.assigns (h : home.Puts members puts) (hl : l ∈ puts.map Prod.fst) :
    home.Assigns members l := by
  induction h with
  | nil => exact absurd hl List.not_mem_nil
  | setting hl' hname hx _ ih =>
      rw [List.map_cons, List.mem_cons] at hl
      rcases hl with rfl | hl
      · refine .setting List.mem_cons_self hl' hname ?_
        rintro rfl
        rw [scalarOf_null] at hx
        cases hx
      · exact (ih hl).cons _
  | inside hc hname _ _ ihin ih =>
      rw [List.map_append, List.mem_append] at hl
      rcases hl with hl | hl
      · exact .inside List.mem_cons_self hc hname (ihin hl)
      · exact (ih hl).cons _
  | null _ ih => exact (ih hl).cons _
  | unknown _ _ _ ih => exact (ih hl).cons _

/-- The values of the first member come before those of the others. -/
theorem Puts.tail {member : String × Json.Value} (h : home.Puts (member :: rest) puts) :
    ∃ front back, puts = front ++ back ∧ home.Puts rest back := by
  cases h with
  | setting _ _ _ hrest => exact ⟨[_], _, rfl, hrest⟩
  | inside _ _ _ hrest => exact ⟨_, _, rfl, hrest⟩
  | null hrest => exact ⟨[], _, rfl, hrest⟩
  | unknown _ _ hrest => exact ⟨[], _, rfl, hrest⟩

/-- The last value given to a setting is the one it has. -/
theorem Puts.get_last {v : Json.Value} (h : home.LastAssigns members l v)
    (hputs : home.Puts members puts) (s : Settings) :
    scalarOf l.kind v = some ((s.putAll puts).get l) := by
  -- What is put after the last value given is put into other settings.
  induction h generalizing puts s with
  | @setting home rest name v l hl hname hv hlast =>
      cases hputs with
      | @setting _ _ _ _ l' x puts hl' hname' hx hrest =>
          -- The name is that of one setting only.
          obtain rfl : l' = l := by
            have hfind := (find?_setting hl' hname').symm.trans (find?_setting hl hname)
            exact Option.some.inj hfind
          have hkept := (s.set l' x).get_putAll_of_notMem fun hmem => hlast (hrest.assigns hmem)
          rw [hx]
          refine congrArg some ?_
          exact (hkept.trans (s.get_set_self l' x (kind_of_scalarOf hx))).symm
      | inside hc hname' =>
          have hfind := (find?_child hc hname').1.symm.trans (find?_setting hl hname)
          cases hfind
      | null => exact absurd rfl hv
      | unknown hunknown =>
          rw [hunknown l hl] at hname
          cases hname
  | @inside home c rest inner name v l hc hname _ hlast ih =>
      cases hputs with
      | setting hl hname' =>
          have hfind := (find?_child hc hname).1.symm.trans (find?_setting hl hname')
          cases hfind
      | @inside _ c' _ _ _ puts puts' hc' hname' hin hrest =>
          obtain rfl : c' = c := by
            have hfind := (find?_child hc' hname').2.symm.trans (find?_child hc hname).2
            exact Option.some.inj hfind
          have hkept := (s.putAll puts).get_putAll_of_notMem fun hmem => hlast (hrest.assigns hmem)
          rw [s.putAll_append, hkept]
          exact ih hin s
      | unknown _ hunknown =>
          rw [hunknown c hc] at hname
          cases hname
  | later _ ih =>
      obtain ⟨front, back, rfl, hrest⟩ := hputs.tail
      rw [s.putAll_append]
      exact ih hrest _

/-- Where a value is given, one is the last. -/
theorem Assigns.exists_last (h : home.Assigns members l) : ∃ v, home.LastAssigns members l v := by
  -- Outside on the sections, which end, and inside on the members.
  induction hn : home.height using Nat.strongRecOn generalizing home members with
  | ind n ih =>
    induction members with
    | nil =>
        cases h with
        | setting hmem => exact absurd hmem List.not_mem_nil
        | inside hmem => exact absurd hmem List.not_mem_nil
    | cons member rest ihrest =>
        by_cases hlater : home.Assigns rest l
        · obtain ⟨v, hv⟩ := ihrest hlater
          exact ⟨v, .later hv⟩
        · -- The first member gives it then.
          cases h with
          | @setting _ _ name v _ hmem hl hname hv =>
              rcases List.mem_cons.mp hmem with rfl | hmem
              · exact ⟨v, .setting hl hname hv hlater⟩
              · exact absurd (.setting hmem hl hname hv) hlater
          | @inside _ c _ inner name _ hmem hc hname hin =>
              rcases List.mem_cons.mp hmem with rfl | hmem
              · have hchild := Section.height_of_child hc
                obtain ⟨v, hv⟩ := ih c.height (by omega) hin rfl
                exact ⟨v, .inside hc hname hv hlater⟩
              · exact absurd (.inside hmem hc hname hin) hlater

end Section

/-- Settings are what a text makes of others: the last value that it gives where
    it gives one, and what they were elsewhere. -/
structure Settings.Overlaid (text : String) (s t : Settings) : Prop where
  /-- What is given no value stays. -/
  kept : ∀ l, ¬ Assigned text l → t.get l = s.get l
  /-- What is given values has the last. -/
  given : ∀ l v, LastAssigned text l v → scalarOf l.kind v = some (t.get l)

section Overriding

variable {text : String} {s s' t t' : Settings}

theorem Assigned.exists_last {l : Setting} (h : Assigned text l) : ∃ v, LastAssigned text l v := by
  obtain ⟨members, hparse, hmembers⟩ := h
  obtain ⟨v, hv⟩ := hmembers.exists_last
  exact ⟨v, members, hparse, hv⟩

/-- A text that overrides settings is a null, or an object that puts values. -/
theorem override_eq_some_iff :
    s.override text = some t ↔
      (Json.Value.parse text = some .null ∧ t = s) ∨
        ∃ members puts, Json.Value.parse text = some (.object members) ∧
          Section.root.Puts members puts ∧ t = s.putAll puts := by
  have hroot : Section.root.height ≤ sectionDepth := by decide
  unfold Settings.override
  rcases Json.Value.parse text with _ | v
  · simp
  · cases v with
    | null => simp [Settings.merge, eq_comm]
    | object members => simp [Settings.merge, mergeSection_eq_some_iff hroot]
    | _ => simp [Settings.merge]

/-- A text that overrides some settings overrides any. -/
theorem exists_override (h : s.override text = some t) (s' : Settings) :
    ∃ t', s'.override text = some t' := by
  rcases override_eq_some_iff.mp h with ⟨hparse, -⟩ | ⟨members, puts, hparse, hputs, -⟩
  · exact ⟨s', override_eq_some_iff.mpr (.inl ⟨hparse, rfl⟩)⟩
  · exact ⟨s'.putAll puts, override_eq_some_iff.mpr (.inr ⟨members, puts, hparse, hputs, rfl⟩)⟩

/-- What an override makes of settings. -/
theorem overlaid_of_override (h : s.override text = some t) : s.Overlaid text t := by
  rcases override_eq_some_iff.mp h with ⟨hnull, rfl⟩ | ⟨members, puts, hparse, hputs, rfl⟩
  · -- A null gives nothing.
    refine ⟨fun _ _ => rfl, ?_⟩
    rintro l v ⟨members, hobject, -⟩
    cases hnull.symm.trans hobject
  · constructor
    -- Nothing is put into a setting that is given no value.
    · intro l hl
      exact s.get_putAll_of_notMem fun hmem => hl ⟨members, hparse, hputs.assigns hmem⟩
    · rintro l v ⟨members', hparse', hlast⟩
      cases hparse.symm.trans hparse'
      exact Section.Puts.get_last hlast hputs s

/-- What is given a value has one that the settings before have no part in. -/
theorem Settings.Overlaid.get_eq (h : s.Overlaid text t) (h' : s'.Overlaid text t') {l : Setting}
    (hl : Assigned text l) : t'.get l = t.get l := by
  obtain ⟨v, hv⟩ := hl.exists_last
  exact Option.some.inj ((h'.given l v hv).symm.trans (h.given l v hv))

/-- Nothing is left to do for the same text. -/
theorem Settings.Overlaid.eq_of_again (h : s.Overlaid text t) (h' : t.Overlaid text t') :
    t' = t := by
  refine Settings.ext_get fun l => ?_
  by_cases hl : Assigned text l
  · exact h.get_eq h' hl
  · exact h'.kept l hl

end Overriding

section Loading

variable {env : Environment}

/-- Settings that can be overridden are loaded overridden. -/
theorem load_of_override {disk : Storage.Disk} {directory : String} {document : Toml.Document}
    {s t : Settings} (hdocument : readDocument disk directory = .ok document)
    (hdecode : decode env document = .ok s) (hhas : env.has overrideVariable = true)
    (h : s.override (env overrideVariable) = some t) :
    Settings.load disk env directory = (t, t.validate.map LoadError.invalid) := by
  have hgather : Settings.gather disk env directory = .ok t := by
    unfold Settings.gather
    rw [hdocument]
    simp only [bind, Except.bind, hdecode, hhas, if_true, h]
  unfold Settings.load
  rw [hgather]

/-- Dumped settings are decoded as they are if no variable is set but that of
    the override. -/
theorem decode_document_of_override_alone {s : Settings} (hs : s.Fits) (env : Environment)
    (hother : ∀ name, name ≠ overrideVariable → env name = "") :
    decode env (s.document Section.all).lowered = .ok s := by
  have hpath (path : List String) (h : spelled path ≠ "CONFIG_JSON".toList) :
      env (variableName path) = "" := by
    refine hother _ fun heq => h ?_
    have hlist := congrArg String.toList heq
    rw [toList_variableName] at hlist
    exact List.append_cancel_left hlist
  have hsettings : ∀ l : Setting, spelled l.path ≠ "CONFIG_JSON".toList := by decide +kernel
  have hsections : ∀ home : Section, spelled home.path ≠ "CONFIG_JSON".toList := by decide +kernel
  exact decode_document hs (fun l => hpath _ (hsettings l)) fun home _ => hpath _ (hsections home)

theorem Settings.get_zero (l : Setting) : Settings.zero.get l = l.kind.zero := by
  revert l
  decide

/-- A text that overrides nothing leaves nothing loaded. -/
theorem load_of_not_override (disk : Storage.Disk) (directory : String)
    (hhas : env.has overrideVariable = true)
    (h : ∀ s : Settings, s.override (env overrideVariable) = none) :
    ∃ e, Settings.load disk env directory = (Settings.zero, some e) ∧
      ∀ document s, readDocument disk directory = .ok document → decode env document = .ok s →
        e = .badOverride := by
  -- Whichever of the three steps fails first, it is the one that is reported.
  unfold Settings.load Settings.gather
  rcases hread : readDocument disk directory with e | document
  · exact ⟨e, rfl, fun _ _ hdocument => by cases hdocument⟩
  · rcases hdecode : decode env document with problems | s
    · refine ⟨.undecodable problems, ?_, fun _ _ hdocument hok => ?_⟩
      · simp only [bind, Except.bind, hdecode]
      · cases hdocument
        cases hdecode.symm.trans hok
    · refine ⟨.badOverride, ?_, fun _ _ _ _ => rfl⟩
      simp only [bind, Except.bind, hdecode, hhas, if_true, h]

end Loading

/-- An override touches only what it names. If a text overrides any settings, it
    overrides all: each setting that it gives no value stays as it is, each that
    it gives one has the last one given, whatever it was before, and overriding
    once more changes nothing. These are the settings that are loaded over a
    file and an environment that can be read. A text that is set and does not
    override all settings leaves nothing loaded: every setting is zero, and an
    error is reported, that of the override if nothing went wrong before. -/
theorem override_touches_only_what_it_names (text : String) :
    (∀ s t : Settings, s.override text = some t →
      (∀ l, ¬ Assigned text l → t.get l = s.get l) ∧
      (∀ l, Assigned text l → ∃ v, LastAssigned text l v ∧ scalarOf l.kind v = some (t.get l)) ∧
      (∀ s' : Settings, ∃ t', s'.override text = some t' ∧
        ∀ l, Assigned text l → t'.get l = t.get l) ∧
      t.override text = some t ∧
      ∀ (disk : Storage.Disk) (env : Environment) (directory : String) (document : Toml.Document),
        env overrideVariable = text → readDocument disk directory = .ok document →
        decode env document = .ok s →
        Settings.load disk env directory = (t, t.validate.map LoadError.invalid)) ∧
    ∀ s : Settings, s.override text = none →
      ∀ (disk : Storage.Disk) (env : Environment) (directory : String),
        env overrideVariable = text → text ≠ "" →
        (∀ l, (Settings.load disk env directory).1.get l = l.kind.zero) ∧
        ∃ e, Settings.load disk env directory = (Settings.zero, some e) ∧
          ∀ document s, readDocument disk directory = .ok document →
            decode env document = .ok s → e = .badOverride := by
  refine ⟨fun s t h => ?_, fun s h disk env directory hvariable hne => ?_⟩
  · have hover := overlaid_of_override h
    refine ⟨hover.kept, fun l hl => ?_, fun s' => ?_, ?_, ?_⟩
    · obtain ⟨v, hv⟩ := hl.exists_last
      exact ⟨v, hv, hover.given l v hv⟩
    · obtain ⟨t', h'⟩ := exists_override h s'
      exact ⟨t', h', fun l hl => hover.get_eq (overlaid_of_override h') hl⟩
    · obtain ⟨t', h'⟩ := exists_override h t
      rw [h', hover.eq_of_again (overlaid_of_override h')]
    · rintro disk env directory document rfl hdocument hdecode
      -- The empty text is no override, so the variable is set.
      have hhas : env.has overrideVariable = true := by
        refine bne_iff_ne.mpr fun hempty => ?_
        rw [hempty] at h
        cases h
      exact load_of_override hdocument hdecode hhas h
  · subst hvariable
    -- A text that fails to override some settings fails to override any.
    have hnone (s' : Settings) : s'.override (env overrideVariable) = none := by
      by_contra hsome
      obtain ⟨t', h'⟩ := Option.ne_none_iff_exists'.mp hsome
      obtain ⟨t, ht⟩ := exists_override h' s
      cases h.symm.trans ht
    obtain ⟨e, hload, he⟩ := load_of_not_override disk directory (bne_iff_ne.mpr hne) hnone
    refine ⟨fun l => ?_, e, hload, he⟩
    rw [hload]
    exact Settings.get_zero l

/-- A name given twice in another case, a section whose only value is a null, and
    a text that spoils the loading after a value that could be read. -/
theorem override_touches_only_what_it_names_given_twice :
    let text := "\x7b\"TITLE\": \"a\", \"log\": \x7b\"LogLevel\": null\x7d, \"title\": \"b\"\x7d"
    let spoilt := "\x7b\"Title\": \"a\", \"Log\": 3\x7d"
    let holding (value : String) : Environment :=
      fun name => if name = overrideVariable then value else ""
    let disk := diskHolding Settings.standard.toToml.toUTF8
    ∃ t : Settings, Settings.standard.override text = some t ∧
      (Assigned text .title ∧ ∃ t', Settings.zero.override text = some t' ∧
        t'.get .title = t.get .title) ∧
      (¬ Assigned text .level ∧ t.get .level = Settings.standard.get .level) ∧
      t.override text = some t ∧
      Settings.load disk (holding text) "" = (t, t.validate.map LoadError.invalid) ∧
      ∃ e, Settings.load disk (holding spoilt) "" = (Settings.zero, some e) := by
  intro text spoilt holding disk
  have hparse : Json.Value.parse text = some (.object [("TITLE", .text "a"),
      ("log", .object [("LogLevel", .null)]), ("title", .text "b")]) := by
    unfold Json.Value.parse
    rw [show text.toList = _ from String.toList_ofList]
    rfl
  have hsome : (Settings.standard.override text).isSome = true := by decide +kernel
  have hnone : Settings.standard.override spoilt = none := by decide +kernel
  obtain ⟨t, ht⟩ := Option.isSome_iff_exists.mp hsome
  have htitle : Assigned text .title :=
    ⟨_, hparse, .setting List.mem_cons_self (by decide) (by decide) Json.Value.noConfusion⟩
  have hlevel : ¬ Assigned text .level := by
    rintro ⟨members, hobject, h⟩
    cases hparse.symm.trans hobject
    cases h with
    | setting _ hl => exact absurd hl (by decide)
    | @inside _ _ _ inner _ _ hmem _ _ hin =>
        -- The only object holds nothing but a null.
        obtain ⟨-, rfl⟩ : _ ∧ inner = [("LogLevel", .null)] := by simpa using hmem
        cases hin with
        | setting hnull _ _ hv => exact hv (Prod.mk.inj (List.mem_singleton.mp hnull)).2
        | inside hnull => cases List.mem_singleton.mp hnull
  have hdecode := decode_document_of_override_alone Settings.standard_fits
    (holding text) fun name hname => if_neg hname
  have hfile := FileSays.of_text (readFile_diskHolding _) (parse_toToml Settings.standard_fits)
  obtain ⟨hkept, -, hsame, hagain, hload⟩ :=
    (override_touches_only_what_it_names text).1 _ t ht
  obtain ⟨t', ht', hgiven⟩ := hsame Settings.zero
  obtain ⟨-, e, he, -⟩ := (override_touches_only_what_it_names spoilt).2 _ hnone disk
    (holding spoilt) "" (if_pos rfl) (by decide)
  exact ⟨t, ht, ⟨htitle, t', ht', hgiven _ htitle⟩, ⟨hlevel, hkept _ hlevel⟩, hagain,
    hload disk (holding text) "" _ (if_pos rfl) (readDocument_of_fileSays hfile) hdecode, e, he⟩

end Passforge
