import DfaTable.Proofs.Automaton.Elements
import DfaTable.Proofs.Markup.Ways
import Mathlib.Logic.Relation

/-!
# DfaTable.Proofs.Automaton.Edits

Edits of a document that make no difference to its automaton: remarks, text that is not read,
elements that are not looked for, and all of a tag but what tells one state from another.

* `Edit`: the edits, each in one direction.
* `Edit.content_eq`: where text is read, an edit leaves the text as it is.
* `Edit.map_elements_eq`: what is read of the elements of a name stays the same if it does so for
  each of them.
* `loads_eq_of_edits`: however many edits are made, or taken back, loading comes to the same.
-/

namespace DfaTable

open Text Markup

/-! ## The edits -/

/-- The names of the elements whose text is read. -/
def textNames : List Text := ["from".toList, "to".toList, "read".toList, "type".toList]

/-- The names of the elements that are looked for. -/
def knownNames : List Text :=
  "state".toList :: "transition".toList :: "final".toList :: "initial".toList :: textNames

/-- The attributes that are read of a state are the same. -/
def SameState (a b : Attributes) : Prop :=
  ∀ name ∈ ["id".toList, "name".toList],
    (Element.mk a .nil).attribute? name = (Element.mk b .nil).attribute? name

instance (a b : Attributes) : Decidable (SameState a b) := List.decidableBAll _ _

/-- An edit of nodes, which are those of an element whose text is read or are not. Whatever such an
edit puts in, the edit in the other direction takes away. -/
inductive Edit : Bool → Forest → Forest → Prop where
  /-- A comment or a processing instruction is put in. -/
  | remark (isRead : Bool) (rest : Forest) : Edit isRead rest (.remark rest)
  /-- A text is cut in two, between which other edits have their place. -/
  | cut (isRead : Bool) (s t : Text) (rest : Forest) :
      Edit isRead (.text (s ++ t) rest) (.text s (.text t rest))
  /-- Text is put in where none is read. -/
  | text (t : Text) (rest : Forest) : Edit false rest (.text t rest)
  /-- An element that is not looked for is put in where no text is read, with all that is in it. -/
  | subtree {tag : Tag} {inner : Forest} (attributes : Attributes) (rest : Forest) :
      (∀ name ∈ knownNames, (Forest.element tag attributes inner .nil).elements name = []) →
      Edit false rest (.element tag attributes inner rest)
  /-- Neighbours are put into an element that is not looked for. -/
  | wrap {tag : Tag} (isRead : Bool) (attributes : Attributes) (inner rest : Forest) :
      tag.name ∉ knownNames →
      Edit isRead (inner.append rest) (.element tag attributes inner rest)
  /-- The attributes of an element are changed; if it is a state, all but those that are read. -/
  | attributes {tag : Tag} {a b : Attributes} (isRead : Bool) (inner rest : Forest) :
      (tag.name = "state".toList → SameState a b) →
      Edit isRead (.element tag a inner rest) (.element tag b inner rest)
  /-- The name space of an element is changed. -/
  | space (isRead : Bool) (tag : Tag) (space : Option Text) (a : Attributes)
      (inner rest : Forest) :
      Edit isRead (.element tag a inner rest) (.element { tag with space } a inner rest)
  | behindText {isRead : Bool} {f g : Forest} (t : Text) :
      Edit isRead f g → Edit isRead (.text t f) (.text t g)
  | behindRemark {isRead : Bool} {f g : Forest} :
      Edit isRead f g → Edit isRead (.remark f) (.remark g)
  | behindElement {isRead : Bool} {f g : Forest} (tag : Tag) (a : Attributes) (inner : Forest) :
      Edit isRead f g → Edit isRead (.element tag a inner f) (.element tag a inner g)
  | inside {isRead : Bool} {f g : Forest} {tag : Tag} (a : Attributes) (rest : Forest) :
      Edit (isRead || decide (tag.name ∈ textNames)) f g →
      Edit isRead (.element tag a f rest) (.element tag a g rest)

/-- An edit of a document that has a root before and after it, as all edits below the root. -/
structure IsEdit (f g : Forest) : Prop where
  edit : Edit false f g
  before : f.root?.isSome = true
  after : g.root?.isSome = true

theorem isEdit_below_root {f g : Forest} {tag : Tag} (a : Attributes) (rest : Forest)
    (h : Edit (decide (tag.name ∈ textNames)) f g) :
    IsEdit (.element tag a f rest) (.element tag a g rest) where
  edit := .inside a rest (by rwa [Bool.false_or])
  before := rfl
  after := rfl

/-! ## What an edit leaves as it is -/

section
variable {isRead : Bool} {f g : Forest}

/-- Where text is read, an edit changes none of it. -/
theorem Edit.content_eq (h : Edit true f g) : f.content = g.content := by
  generalize hr : true = isRead at h
  induction h with
  | remark => rfl
  | cut => simp [Forest.content]
  | text => cases hr
  | subtree => cases hr
  | wrap => rw [Forest.content_append]; rfl
  | attributes => rfl
  | space => rfl
  | behindText t _ ih => exact congrArg (t ++ ·) (ih hr)
  | behindRemark _ ih => exact ih hr
  | behindElement tag a inner _ ih => exact congrArg (inner.content ++ ·) (ih hr)
  | inside a rest _ ih => exact congrArg (· ++ rest.content) (ih (by rw [← hr, Bool.true_or]))

/-- What is read of an element with some name does not depend on edits inside it, nor on its
attributes, those of a state apart. -/
structure IsSteadfast {β : Type} (name : Text) (look : Element → β) : Prop where
  inner : ∀ {isRead : Bool} {f g : Forest} (a : Attributes), (name ∈ textNames → isRead = true) →
    Edit isRead f g → look ⟨a, f⟩ = look ⟨a, g⟩
  attributes : ∀ {a b : Attributes} (f : Forest), (name = "state".toList → SameState a b) →
    look ⟨a, f⟩ = look ⟨b, f⟩

/-- Then it does not depend on edits anywhere. -/
theorem Edit.map_elements_eq {β : Type} {name : Text} {look : Element → β}
    (hn : name ∈ knownNames) (hl : IsSteadfast name look) (h : Edit isRead f g) :
    (f.elements name).map look = (g.elements name).map look := by
  induction h with
  | remark => rfl
  | cut => rfl
  | text => rfl
  | @subtree tag inner attributes rest hforeign =>
    have hnone := hforeign name hn
    obtain ⟨hne, hinner, -⟩ := Forest.elements_element_eq_nil_iff.1 hnone
    rw [Forest.elements_element, if_neg hne, hinner]
    rfl
  | @wrap tag isRead attributes inner rest hforeign =>
    have hne : tag.name ≠ name := fun he => hforeign (he ▸ hn)
    rw [Forest.elements_append, Forest.elements_element, if_neg hne]
    rfl
  | @attributes tag a b isRead inner rest hs =>
    simp only [Forest.elements_element, List.map_append]
    congr 1
    split
    · rename_i he
      exact congrArg ([·]) (hl.attributes inner fun hstate => hs (he.trans hstate))
    · rfl
  | space isRead tag space a inner rest => rw [Forest.elements_element, Forest.elements_element]
  | behindText t _ ih => exact ih
  | behindRemark _ ih => exact ih
  | behindElement tag a inner _ ih =>
    simp only [Forest.elements_element, List.map_append, ih]
  | @inside isRead f g tag a rest hedit ih =>
    simp only [Forest.elements_element, List.map_append, ih]
    congr 1
    split
    · rename_i he
      refine congrArg ([·]) (hl.inner a (fun ht => ?_) hedit)
      rw [decide_eq_true (he ▸ ht), Bool.or_true]
    · rfl

theorem isSteadfast_content {name : Text} (hn : name ∈ textNames) :
    IsSteadfast name fun e => e.inner.content where
  inner a hr h := by
    rw [hr hn] at h
    exact h.content_eq
  attributes f _ := rfl

theorem Edit.textInside_eq (h : Edit isRead f g) {name : String} (hn : name.toList ∈ textNames) :
    textInside name f = textInside name g := by
  have hcontents := h.map_elements_eq (List.mem_append_right (["state".toList,
    "transition".toList, "final".toList, "initial".toList]) hn) (isSteadfast_content hn)
  have hfirst : ∀ f : Forest, textInside name f =
      ((f.elements name.toList).map fun e => e.inner.content).head?.map collapse := by
    intro f
    rw [List.head?_map, Option.map_map]
    rfl
  rw [hfirst, hfirst, hcontents]

/-- An edit neither brings a flag nor takes one away. -/
theorem Edit.first?_isSome_eq {name : Text} (hn : name ∈ knownNames) (h : Edit isRead f g) :
    (f.first? name).isSome = (g.first? name).isSome := by
  have hmap : (f.elements name).map (fun _ => ()) = (g.elements name).map fun _ => () :=
    h.map_elements_eq hn ⟨fun _ _ _ => rfl, fun _ _ => rfl⟩
  have hfirst : ∀ f : Forest, (f.first? name).isSome =
      ((f.elements name).map fun _ => ()).head?.isSome := by
    intro f
    rw [List.head?_map, Option.isSome_map]
    rfl
  rw [hfirst, hfirst, hmap]

end

/-! ## Elements and documents -/

theorem Transition.isSteadfast_ofElement :
    IsSteadfast "transition".toList Transition.ofElement where
  inner a _ h := by
    have hfrom : textInside "from" _ = textInside "from" _ := h.textInside_eq (by decide)
    have hto : textInside "to" _ = textInside "to" _ := h.textInside_eq (by decide)
    have hread : textInside "read" _ = textInside "read" _ := h.textInside_eq (by decide)
    simp only [ofElement, hfrom, hto, hread]
  attributes f _ := rfl

theorem State.isSteadfast_ofElement : IsSteadfast "state".toList State.ofElement where
  inner {_ f g} a _ h := by
    have hfinal : (Element.mk a f).holds "final".toList = (Element.mk a g).holds "final".toList :=
      h.first?_isSome_eq (by decide)
    have hinitial :
        (Element.mk a f).holds "initial".toList = (Element.mk a g).holds "initial".toList :=
      h.first?_isSome_eq (by decide)
    simp only [ofElement, hfinal, hinitial]
    rfl
  attributes {a b} f hs := by
    have hid : (Element.mk a f).attribute? "id".toList = (Element.mk b f).attribute? "id".toList :=
      hs rfl _ (List.mem_cons_self ..)
    have hname :
        (Element.mk a f).attribute? "name".toList = (Element.mk b f).attribute? "name".toList :=
      hs rfl _ (List.mem_cons_of_mem _ (List.mem_cons_self ..))
    simp only [ofElement, hid, hname]
    rfl

/-- All elements of a name are read from what each of them is read as. -/
theorem readAll_eq_of_map {α : Type} {read : Element → Except Oversized (Except Defect α)}
    {name : String} {f g : Forest}
    (h : (f.elements name.toList).map read = (g.elements name.toList).map read) :
    readAll read name f = readAll read name g := by
  have hm : ∀ es : List Element, es.mapM read = (es.map read).mapM id := fun es => by
    rw [List.mapM_map]
    rfl
  rw [readAll, readAll, hm, hm, h]

theorem IsEdit.ofForest_eq {f g : Forest} (h : IsEdit f g) :
    Automaton.ofForest f = Automaton.ofForest g := by
  have hstates := readAll_eq_of_map
    (h.edit.map_elements_eq (by decide) State.isSteadfast_ofElement)
  have htransitions := readAll_eq_of_map
    (h.edit.map_elements_eq (by decide) Transition.isSteadfast_ofElement)
  have hkind : textInside "type" f = textInside "type" g := h.edit.textInside_eq (by decide)
  simp only [Automaton.ofForest, Option.isNone_eq_false_iff.2 h.before,
    Option.isNone_eq_false_iff.2 h.after, hstates, htransitions, hkind]

/-- Edits of a document with a root, however many and in either direction, do not change what
loading it comes to: the automaton, the defects that are reported or the number that breaks it off.
So two sources of which one has the tree of the other after such edits are loaded alike. -/
theorem loads_eq_of_edits {f g : Forest} (h : Relation.EqvGen IsEdit f g) :
    Automaton.ofForest f = Automaton.ofForest g ∧
    ∀ (path : Text) (s s' : Source), Forest.ofSource s = f → Forest.ofSource s' = g →
      loadSource path s = loadSource path s' := by
  have heq : Automaton.ofForest f = Automaton.ofForest g := by
    induction h with
    | rel f g hedit => exact hedit.ofForest_eq
    | refl f => rfl
    | symm f g _ ih => exact ih.symm
    | trans f g k _ _ ihf ihg => exact ihf.trans ihg
  refine ⟨heq, fun path s s' hs hs' => ?_⟩
  rw [loadSource, loadSource, Automaton.ofSource, Automaton.ofSource, hs, hs', heq]

/-- A document of a state, and the same with a remark, a text and an element put in, another element
around the flag, and one more attribute. -/
def plainState : Source := .text "<a><state id='1'><final/></state></a>".toList

def editedState : Source := .text "<a><?r?>t<b/><state id='1' x=''><c><final/></c></state></a>".toList

/-- The tree of a document whose root has some nodes in it. -/
def rooted (nodes : Forest) : Forest := .element ⟨none, ['a']⟩ [] nodes .nil

/-- The node of a state with some nodes in it. -/
def stateNode (more : Attributes) (nodes : Forest) : Forest :=
  .element ⟨none, "state".toList⟩ (("id".toList, ['1']) :: more) nodes .nil

def finalNode : Forest := .element ⟨none, "final".toList⟩ [] .nil .nil

def editedTree : Forest :=
  rooted (.remark (.text ['t'] (.element ⟨none, ['b']⟩ [] .nil
    (stateNode [(['x'], [])] (.element ⟨none, ['c']⟩ [] finalNode .nil)))))

set_option maxRecDepth 10000 in
/-- The two documents describe one automaton. -/
theorem loads_eq_of_edits_editedState :
    Relation.EqvGen IsEdit (rooted (stateNode [] finalNode)) editedTree ∧
    Forest.ofSource plainState = rooted (stateNode [] finalNode) ∧
    Forest.ofSource editedState = editedTree ∧
    loadSource [] plainState = loadSource [] editedState := by
  have below : ∀ {f g : Forest}, Edit false f g → Relation.EqvGen IsEdit (rooted f) (rooted g) :=
    fun h => .rel _ _ (isEdit_below_root [] .nil h)
  have hwrap : Edit false (stateNode [] finalNode)
      (stateNode [] (.element ⟨none, ['c']⟩ [] finalNode .nil)) :=
    .inside _ .nil (.wrap _ [] finalNode .nil (by decide))
  have hattribute : Edit false (stateNode [] (.element ⟨none, ['c']⟩ [] finalNode .nil))
      (stateNode [(['x'], [])] (.element ⟨none, ['c']⟩ [] finalNode .nil)) :=
    .attributes _ _ _ fun _ => by decide
  have hforeign : ∀ name ∈ knownNames,
      (Forest.element ⟨none, ['b']⟩ [] .nil .nil).elements name = [] := by
    intro name hname
    have hne : name ≠ ['b'] := by
      rintro rfl
      exact absurd hname (by decide)
    exact Forest.elements_element_eq_nil_iff.2 ⟨Ne.symm hne, rfl, rfl⟩
  have hedits : Relation.EqvGen IsEdit (rooted (stateNode [] finalNode)) editedTree :=
    (((((below hwrap).trans _ _ _ (below hattribute)).trans _ _ _
      (below (.subtree [] _ hforeign))).trans _ _ _ (below (.text ['t'] _))).trans _ _ _
        (below (.remark _ _)))
  have hplain : Forest.ofSource plainState = rooted (stateNode [] finalNode) := by
    decide +kernel
  have hedited : Forest.ofSource editedState = editedTree := by decide +kernel
  exact ⟨hedits, hplain, hedited, (loads_eq_of_edits hedits).2 [] _ _ hplain hedited⟩

end DfaTable
