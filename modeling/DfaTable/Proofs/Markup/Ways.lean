import DfaTable.Markup
import Mathlib.Data.List.Forall2

/-!
# DfaTable.Proofs.Markup.Ways

Where an element stands in a forest: at each level, how many elements are before the one that is
gone into. The way of an element begins with the ways of the elements that it is in.

* `at?_append`: what is below an element is what is in it.
* `mem_ways_iff`, `forall₂_elements_ways`: the ways of the elements with a name, in the order in
  which the elements are found.
* `exists_isNearest`: what is inside some element with a name has a nearest one around it.
* `exists_at?_putAt`: nodes that are put into an element are in all elements around it, and nothing
  else changes its place.
-/

namespace DfaTable.Markup

deriving instance DecidableEq for Forest

/-- The number of elements to pass at each level, from the outermost on. -/
abbrev Way := List Nat

namespace Way

/-- One more element is passed first. -/
def pass : Way → Way
  | [] => []
  | i :: w => (i + 1) :: w

/-- What stands there is around what stands at the other. -/
def IsAround (u v : Way) : Prop := u <+: v ∧ u ≠ v

instance (u v : Way) : Decidable (IsAround u v) := inferInstanceAs (Decidable (_ ∧ _))

theorem isAround_iff {u v : Way} : u.IsAround v ↔ ∃ w, w ≠ [] ∧ v = u ++ w := by
  constructor
  · rintro ⟨⟨w, rfl⟩, hne⟩
    refine ⟨w, ?_, rfl⟩
    rintro rfl
    exact hne (List.append_nil u).symm
  · rintro ⟨w, hw, rfl⟩
    exact ⟨List.prefix_append u w, fun he => hw (List.self_eq_append_right.1 he)⟩

theorem IsAround.length_lt {u v : Way} (h : u.IsAround v) : u.length < v.length :=
  Nat.lt_of_le_of_ne h.1.length_le fun he => h.2 (h.1.eq_of_length he)

theorem IsAround.of_prefix {u v w : Way} (h : u.IsAround v) (hw : w <+: u) : w.IsAround v := by
  refine ⟨hw.trans h.1, ?_⟩
  rintro rfl
  exact h.2 (h.1.eq_of_length_le hw.length_le)

/-- Of two elements around a third, one is around the other. -/
theorem IsAround.isAround_of_not_prefix {u v x : Way} (hu : u.IsAround v) (hx : x.IsAround v)
    (h : ¬ x <+: u) : u.IsAround x := by
  refine ⟨(List.prefix_or_prefix_of_prefix hx.1 hu.1).resolve_left h, ?_⟩
  rintro rfl
  exact h (List.prefix_refl u)

end Way

namespace Forest

/-! ## Nodes and elements -/

/-- Nodes before others. -/
def append : Forest → Forest → Forest
  | nil, f => f
  | text t rest, f => text t (rest.append f)
  | remark rest, f => remark (rest.append f)
  | element tag attributes inner rest, f => element tag attributes inner (rest.append f)

theorem elements_append (name : Text) (f g : Forest) :
    (f.append g).elements name = f.elements name ++ g.elements name := by
  induction f with
  | nil => rfl
  | text t rest ih => exact ih
  | remark rest ih => exact ih
  | element tag attributes inner rest _ ih =>
    simp only [append, elements, ih]
    split <;> simp

theorem content_append (f g : Forest) : (f.append g).content = f.content ++ g.content := by
  induction f with
  | nil => rfl
  | text t rest ih => simp [append, content, ih]
  | remark rest ih => exact ih
  | element tag attributes inner rest _ ih => simp [append, content, ih]

/-- The elements with a name in an element with others behind it. -/
theorem elements_element (name : Text) (tag : Tag) (a : Attributes) (inner rest : Forest) :
    (element tag a inner rest).elements name =
      (if tag.name = name then [(⟨a, inner⟩ : Element)] else []) ++
        (inner.elements name ++ rest.elements name) := by
  rw [elements]
  split <;> rfl

theorem elements_element_eq_nil_iff {name : Text} {tag : Tag} {a : Attributes}
    {inner rest : Forest} :
    (element tag a inner rest).elements name = [] ↔
      tag.name ≠ name ∧ inner.elements name = [] ∧ rest.elements name = [] := by
  rw [elements_element, List.append_eq_nil_iff, List.append_eq_nil_iff]
  split <;> simp [*]

/-! ## Ways to elements -/

/-- The element at the end of a way, with its tag. -/
def at? : Forest → Way → Option (Tag × Element)
  | nil, _ => none
  | text _ rest, w => rest.at? w
  | remark rest, w => rest.at? w
  | element _ _ _ _, [] => none
  | element tag attributes inner _, [0] => some (tag, { attributes, inner })
  | element _ _ inner _, 0 :: i :: w => inner.at? (i :: w)
  | element _ _ _ rest, (i + 1) :: w => rest.at? (i :: w)

/-- The ways to the elements with a local name, in the order of the elements. -/
def ways (name : Text) : Forest → List Way
  | nil => []
  | text _ rest => ways name rest
  | remark rest => ways name rest
  | element tag _ inner rest =>
    let below := (ways name inner).map (0 :: ·) ++ (ways name rest).map Way.pass
    if tag.name = name then [0] :: below else below

section
variable {name : Text} {tag : Tag} {e : Element}

@[simp] theorem at?_nil (f : Forest) : f.at? [] = none := by
  induction f <;> simp_all [at?]

theorem at?_element_zero (tag : Tag) (a : Attributes) (inner rest : Forest) {w : Way}
    (hw : w ≠ []) : (element tag a inner rest).at? (0 :: w) = inner.at? w := by
  cases w with
  | nil => exact absurd rfl hw
  | cons i w => rfl

theorem at?_element_pass (tag : Tag) (a : Attributes) (inner rest : Forest) (w : Way) :
    (element tag a inner rest).at? w.pass = rest.at? w := by
  cases w with
  | nil => rw [at?_nil]; rfl
  | cons i w => rfl

theorem ne_nil_of_at? {f : Forest} {w : Way} (h : f.at? w = some (tag, e)) : w ≠ [] := by
  rintro rfl
  simp at h

/-- The elements below an element are those that are in it. -/
theorem at?_append {f : Forest} {w v : Way} (h : f.at? w = some (tag, e)) (hv : v ≠ []) :
    f.at? (w ++ v) = e.inner.at? v := by
  fun_induction at? f w with
  | case1 => cases h
  | case2 t rest w ih => exact ih h
  | case3 rest w ih => exact ih h
  | case4 => cases h
  | case5 tag a inner rest =>
    cases h
    exact at?_element_zero tag a inner rest hv
  | case6 tag a inner rest i w ih => exact ih h
  | case7 tag a inner rest i w ih => exact ih h

/-- Every element that is found stands at the way in the same place. -/
theorem forall₂_elements_ways (name : Text) (f : Forest) :
    List.Forall₂ (fun w e => ∃ tag, f.at? w = some (tag, e) ∧ tag.name = name)
      (f.ways name) (f.elements name) := by
  induction f with
  | nil => exact .nil
  | text t rest ih => exact ih
  | remark rest ih => exact ih
  | element tag a inner rest ihinner ihrest =>
    have hinner : List.Forall₂
        (fun w e => ∃ t, (element tag a inner rest).at? w = some (t, e) ∧ t.name = name)
        ((inner.ways name).map (0 :: ·)) (inner.elements name) := by
      rw [List.forall₂_map_left_iff]
      refine ihinner.imp fun w e ⟨t, hat, hn⟩ => ⟨t, ?_, hn⟩
      rw [at?_element_zero tag a inner rest (ne_nil_of_at? hat), hat]
    have hrest : List.Forall₂
        (fun w e => ∃ t, (element tag a inner rest).at? w = some (t, e) ∧ t.name = name)
        ((rest.ways name).map Way.pass) (rest.elements name) := by
      rw [List.forall₂_map_left_iff]
      refine ihrest.imp fun w e ⟨t, hat, hn⟩ => ⟨t, ?_, hn⟩
      rw [at?_element_pass, hat]
    have hbelow := List.rel_append hinner hrest
    simp only [ways, elements]
    split
    · rename_i hn
      exact .cons ⟨tag, rfl, hn⟩ hbelow
    · exact hbelow

theorem mem_ways_element {w : Way} {a : Attributes} {inner rest : Forest}
    (h : w ∈ (inner.ways name).map (0 :: ·) ++ (rest.ways name).map Way.pass) :
    w ∈ (element tag a inner rest).ways name := by
  simp only [ways]
  split
  · exact List.mem_cons_of_mem _ h
  · exact h

theorem mem_ways_iff {f : Forest} {w : Way} :
    w ∈ f.ways name ↔ ∃ tag e, f.at? w = some (tag, e) ∧ tag.name = name := by
  constructor
  · intro hw
    obtain ⟨⟨i, hi⟩, rfl⟩ := List.get_of_mem hw
    have hall := forall₂_elements_ways name f
    obtain ⟨tag, hat⟩ := hall.get hi (hall.length_eq ▸ hi)
    exact ⟨tag, _, hat⟩
  · rintro ⟨tag, e, hat, hn⟩
    fun_induction at? f w with
    | case1 => cases hat
    | case2 t rest w ih => exact ih hat
    | case3 rest w ih => exact ih hat
    | case4 => cases hat
    | case5 tag' a inner rest =>
      cases hat
      rw [ways, if_pos hn]
      exact List.mem_cons_self ..
    | case6 tag' a inner rest i w ih =>
      have hmem : 0 :: i :: w ∈ (inner.ways name).map (0 :: ·) := List.mem_map_of_mem (ih hat)
      exact mem_ways_element (List.mem_append_left _ hmem)
    | case7 tag' a inner rest i w ih =>
      have hmem : (i + 1) :: w ∈ (rest.ways name).map Way.pass :=
        List.mem_map_of_mem (f := Way.pass) (ih hat)
      exact mem_ways_element (List.mem_append_right _ hmem)

/-- There is an element with a name in another if there is one on a way below it. -/
theorem elements_inner_ne_nil_iff {f : Forest} {w : Way} (h : f.at? w = some (tag, e)) :
    e.inner.elements name ≠ [] ↔ ∃ v ∈ f.ways name, w.IsAround v := by
  have hlength := (forall₂_elements_ways name e.inner).length_eq
  rw [← List.length_pos_iff, ← hlength, List.length_pos_iff_exists_mem]
  constructor
  · rintro ⟨v, hv⟩
    obtain ⟨t, x, hat, hn⟩ := mem_ways_iff.1 hv
    have hne := ne_nil_of_at? hat
    exact ⟨w ++ v, mem_ways_iff.2 ⟨t, x, (at?_append h hne).trans hat, hn⟩,
      Way.isAround_iff.2 ⟨v, hne, rfl⟩⟩
  · rintro ⟨u, hu, haround⟩
    obtain ⟨v, hne, rfl⟩ := Way.isAround_iff.1 haround
    obtain ⟨t, x, hat, hn⟩ := mem_ways_iff.1 hu
    exact ⟨v, mem_ways_iff.2 ⟨t, x, (at?_append h hne).symm.trans hat, hn⟩⟩

/-- The element with a name that is around a way and inside all others that are. -/
structure IsNearest (f : Forest) (name : Text) (u v : Way) : Prop where
  mem : u ∈ f.ways name
  isAround : u.IsAround v
  inside : ∀ x ∈ f.ways name, x.IsAround v → x <+: u

instance (f : Forest) (u v : Way) : Decidable (f.IsNearest name u v) :=
  decidable_of_iff (u ∈ f.ways name ∧ u.IsAround v ∧ ∀ x ∈ f.ways name, x.IsAround v → x <+: u)
    ⟨fun ⟨h₁, h₂, h₃⟩ => ⟨h₁, h₂, h₃⟩, fun ⟨h₁, h₂, h₃⟩ => ⟨h₁, h₂, h₃⟩⟩

/-- From any element around a way one comes to the nearest, by going further in. -/
theorem exists_isNearest {f : Forest} {w v : Way} (hw : w ∈ f.ways name) (hv : w.IsAround v) :
    ∃ u, w <+: u ∧ f.IsNearest name u v := by
  by_cases h : ∀ x ∈ f.ways name, x.IsAround v → x <+: w
  · exact ⟨w, List.prefix_refl w, hw, hv, h⟩
  · push Not at h
    obtain ⟨x, hx, hxv, hn⟩ := h
    have hwx := hv.isAround_of_not_prefix hxv hn
    have hcloser : v.length - x.length < v.length - w.length := by
      have := hwx.length_lt
      have := hxv.length_lt
      omega
    obtain ⟨u, hu, hnearest⟩ := exists_isNearest hx hxv
    exact ⟨u, hwx.1.trans hu, hnearest⟩
termination_by v.length - w.length

end

/-! ## Putting nodes into an element -/

/-- Nodes put behind all others in the element at the end of a way. -/
def putAt (nodes : Forest) : Forest → Way → Forest
  | nil, _ => nil
  | text t rest, w => text t (putAt nodes rest w)
  | remark rest, w => remark (putAt nodes rest w)
  | element tag a inner rest, [] => element tag a inner rest
  | element tag a inner rest, [0] => element tag a (inner.append nodes) rest
  | element tag a inner rest, 0 :: i :: w => element tag a (putAt nodes inner (i :: w)) rest
  | element tag a inner rest, (i + 1) :: w => element tag a inner (putAt nodes rest (i :: w))

section
variable {name : Text} {tag : Tag} {e : Element} {nodes : Forest}

theorem at?_append_nodes {f : Forest} {w : Way} (h : f.at? w = some (tag, e)) (nodes : Forest) :
    (f.append nodes).at? w = some (tag, e) := by
  fun_induction at? f w with
  | case1 => cases h
  | case2 t rest w ih => exact ih h
  | case3 rest w ih => exact ih h
  | case4 => cases h
  | case5 tag' a inner rest => exact h
  | case6 tag' a inner rest i w ih => exact h
  | case7 tag' a inner rest i w ih => exact ih h

/-- What was to be found in a forest still is, and what is in the nodes is too. -/
theorem elements_putAt_ne_nil_iff {f : Forest} {u : Way} (hu : (f.at? u).isSome = true) :
    (putAt nodes f u).elements name ≠ [] ↔ f.elements name ≠ [] ∨ nodes.elements name ≠ [] := by
  fun_induction at? f u with
  | case1 => cases hu
  | case2 t rest w ih => exact ih hu
  | case3 rest w ih => exact ih hu
  | case4 => cases hu
  | case5 tag' a inner rest =>
    simp only [putAt, ne_eq, elements_element_eq_nil_iff, elements_append, List.append_eq_nil_iff]
    tauto
  | case6 tag' a inner rest i w ih =>
    have hinner := ih hu
    simp only [putAt, ne_eq, elements_element_eq_nil_iff] at hinner ⊢
    tauto
  | case7 tag' a inner rest i w ih =>
    have hrest := ih hu
    simp only [putAt, ne_eq, elements_element_eq_nil_iff] at hrest ⊢
    tauto

/-- After nodes are put in, every element stands where it stood, and holds them in addition if they
were put into it or into an element inside it. -/
theorem exists_at?_putAt (nodes : Forest) {f : Forest} {w u : Way} (h : f.at? w = some (tag, e))
    (hu : (f.at? u).isSome = true) :
    ∃ e', (putAt nodes f u).at? w = some (tag, e') ∧ e'.attributes = e.attributes ∧
      ∀ name, e'.inner.elements name ≠ [] ↔
        e.inner.elements name ≠ [] ∨ w <+: u ∧ nodes.elements name ≠ [] := by
  fun_induction at? f w generalizing u with
  | case1 => cases h
  | case2 t rest w ih => exact ih h hu
  | case3 rest w ih => exact ih h hu
  | case4 => cases h
  | case5 tag' a inner rest =>
    cases h
    match u, hu with
    | [0], _ =>
      refine ⟨⟨a, inner.append nodes⟩, rfl, rfl, fun name => ?_⟩
      simp [elements_append, or_iff_not_imp_left]
    | 0 :: j :: u, hu =>
      refine ⟨⟨a, putAt nodes inner (j :: u)⟩, rfl, rfl, fun name => ?_⟩
      have hinner : (inner.at? (j :: u)).isSome = true := hu
      simp [elements_putAt_ne_nil_iff hinner]
    | (j + 1) :: u, _ => exact ⟨⟨a, inner⟩, rfl, rfl, by simp⟩
  | case6 tag' a inner rest i w ih =>
    match u, hu with
    | [0], _ => exact ⟨e, at?_append_nodes h nodes, rfl, by simp⟩
    | 0 :: j :: u, hu =>
      obtain ⟨e', hat, ha, he⟩ := ih h hu
      exact ⟨e', hat, ha, fun name => by rw [he, List.cons_prefix_cons (a := 0), and_iff_right rfl]⟩
    | (j + 1) :: u, _ => exact ⟨e, h, rfl, by simp⟩
  | case7 tag' a inner rest i w ih =>
    match u, hu with
    | [0], _ => exact ⟨e, h, rfl, by simp⟩
    | 0 :: j :: u, hu => exact ⟨e, h, rfl, by simp⟩
    | (j + 1) :: u, hu =>
      obtain ⟨e', hat, ha, he⟩ := ih h hu
      refine ⟨e', hat, ha, fun name => ?_⟩
      rw [he]
      simp

end

end Forest
end DfaTable.Markup
