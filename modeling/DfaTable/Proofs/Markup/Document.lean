import DfaTable.Proofs.Markup.Walk
import Mathlib.Data.List.Nodup

/-!
# DfaTable.Proofs.Markup.Document

The forest of a document that was written from marks. `Writes` ties marks to the nodes that they
stand for, whatever follows them, and is put together as the marks are.

* `tokens_written`: names and attributes come out as they were written.
* `Writes.element`, `Writes.append`, `Writes.flatMap`: elements, and what stands side by side.
* `spread_ofFeed_written`: the document is read as the forest that it was written from.
-/

namespace DfaTable
namespace Markup

open Text

/-- The tag of a name in no name space. -/
def bareTag (name : Text) : Tag := { space := none, name }

/-- The tokens that a mark comes to. -/
def Mark.tokens : Mark → List Token
  | start isSingle name attributes =>
    .opening (bareTag name) attributes :: if isSingle then [.closing] else []
  | closing _ => [.closing]
  | character c => [.text [c]]

/-! ## Tags and attributes -/

namespace Around

theorem putValue_of_notMem {name : Name} {found : List (Name × Text)}
    (h : name ∉ found.map Prod.fst) (v : Text) :
    putValue name v found = found ++ [(name, v)] := by
  induction found with
  | nil => rfl
  | cons a found ih =>
    rw [List.map_cons, List.mem_cons, not_or] at h
    rw [putValue, if_neg (Ne.symm h.1), ih h.2]
    rfl

/-- Attributes with different names keep their places. -/
theorem foldl_putValue {attributes found : List (Name × Text)}
    (h : ((found ++ attributes).map Prod.fst).Nodup) :
    attributes.foldl (fun found (name, value) => putValue name value found) found =
      found ++ attributes := by
  induction attributes generalizing found with
  | nil => rw [List.append_nil]; rfl
  | cons a attributes ih =>
    have hn : a.1 ∉ found.map Prod.fst := by
      rw [List.map_append, List.map_cons, List.nodup_append] at h
      intro hm
      exact h.2.2 a.1 hm a.1 (List.mem_cons_self ..) rfl
    rw [List.foldl_cons]
    show attributes.foldl _ (putValue a.1 a.2 found) = _
    rw [putValue_of_notMem hn, ih (by rwa [List.append_assoc]), List.append_assoc]
    rfl

variable {tags : List Tag}

theorem tagOf_bareName (a : Around) (name : Text) : a.tagOf (bareName name) = bareTag name := rfl

theorem tokens_cons (a : Around) (e : Event) (events : List Event) :
    a.tokens (e :: events) = (a.step e).2 ++ (a.step e).1.tokens events := rfl

theorem attributesOf_written (a : Around) {attributes : Written}
    (h : (attributes.map Prod.fst).Nodup) :
    a.attributesOf (attributes.map fun b => (bareName b.1, b.2)) = attributes := by
  have hm : (([] ++ attributes.map fun b => (bareName b.1, b.2) : List (Name × Text)).map
      Prod.fst) = (attributes.map Prod.fst).map bareName := by
    simp
  have hd : (([] ++ attributes.map fun b => (bareName b.1, b.2) : List (Name × Text)).map
      Prod.fst).Nodup := by
    rw [hm]
    exact List.Nodup.map (fun _ _ he => congrArg Name.name he) h
  rw [attributesOf, foldl_putValue hd, List.nil_append, List.map_map]
  exact List.map_id'' (fun _ => rfl) _

theorem step_opening {name : Text} {attributes : Written}
    (h : (attributes.map Prod.fst).Nodup) :
    step { tags } (.opening (bareName name) (attributes.map fun b => (bareName b.1, b.2)) []) =
      ({ tags := bareTag name :: tags }, [.opening (bareTag name) attributes]) := by
  have he : ({ tags } : Around).enter [] = { tags } := rfl
  simp only [step, he, tagOf_bareName, attributesOf_written _ h]

theorem step_closing {name : Text} :
    step { tags := bareTag name :: tags } (.closing (bareName name)) =
      ({ tags }, [.closing]) := by
  have hend : endOf (bareTag name) (bareTag name :: tags) = (1, tags) := by
    rw [endOf, if_neg (by simp), if_pos rfl]
  simp only [step, tagOf_bareName, hend]
  rfl

end Around

theorem tokens_written {names : List Text} {marks : List Mark} (h : Nests names marks)
    (hw : ∀ m ∈ marks, m.IsWritable) :
    Around.tokens { tags := names.map bareTag } (marks.flatMap Mark.events) =
      marks.flatMap Mark.tokens := by
  induction h with
  | root =>
    simp only [List.flatMap_cons, List.flatMap_nil, Mark.events, Mark.tokens, List.map_cons,
      List.append_nil, Around.tokens_cons, Around.step_closing]
    rfl
  | closing _ ih =>
    rw [List.flatMap_cons, List.flatMap_cons, ← ih (List.forall_mem_cons.1 hw).2]
    simp only [Mark.events, Mark.tokens, List.map_cons, List.singleton_append, Around.tokens_cons,
      Around.step_closing]
  | opening _ ih =>
    obtain ⟨⟨-, ha⟩, hrest⟩ := List.forall_mem_cons.1 hw
    rw [List.flatMap_cons, List.flatMap_cons, ← ih hrest]
    simp only [Mark.events, Mark.tokens, List.map_cons, List.cons_append, Around.tokens_cons,
      Around.step_opening ha.distinct, Bool.false_eq_true, if_false, List.nil_append]
  | single _ ih =>
    obtain ⟨⟨-, ha⟩, hrest⟩ := List.forall_mem_cons.1 hw
    rw [List.flatMap_cons, List.flatMap_cons, ← ih hrest]
    simp only [Mark.events, Mark.tokens, List.cons_append, Around.tokens_cons,
      Around.step_opening ha.distinct, Around.step_closing, if_true, List.nil_append]
  | character _ ih =>
    rw [List.flatMap_cons, List.flatMap_cons, ← ih (List.forall_mem_cons.1 hw).2]
    rfl

/-! ## Marks and their nodes -/

/-- Marks that leave no element open and stand for nodes; `g` puts these before what follows. -/
structure Writes (marks : List Mark) (g : Forest → Forest) : Prop where
  nests : ∀ {outer : Text} {names : List Text} {rest : List Mark},
    Nests (outer :: names) rest → Nests (outer :: names) (marks ++ rest)
  builds : ∀ nodes outer,
    (marks.flatMap Mark.tokens).foldr Forest.push (nodes, outer) = (g nodes, outer)
  isWritable : ∀ m ∈ marks, m.IsWritable

namespace Writes

theorem nil : Writes [] id where
  nests h := h
  builds _ _ := rfl
  isWritable := by simp

theorem append {marks marks' : List Mark} {g g' : Forest → Forest} (h : Writes marks g)
    (h' : Writes marks' g') : Writes (marks ++ marks') (g ∘ g') where
  nests hr := by
    rw [List.append_assoc]
    exact h.nests (h'.nests hr)
  builds nodes outer := by
    rw [List.flatMap_append, List.foldr_append, h'.builds, h.builds]
    rfl
  isWritable m hm := by
    rcases List.mem_append.1 hm with hm | hm
    · exact h.isWritable m hm
    · exact h'.isWritable m hm

theorem characters {t : Text} (h : ∀ c ∈ t, isChar c = true ∧ c ≠ '\r') :
    Writes (t.map .character) (Forest.pushText t) where
  nests hr := by
    induction t with
    | nil => exact hr
    | cons c t ih => exact .character (ih fun d hd => h d (List.mem_cons_of_mem _ hd))
  builds nodes outer := by
    have ht : (t.map Mark.character).flatMap Mark.tokens = t.map fun c => .text [c] := by
      induction t with
      | nil => rfl
      | cons c t ih =>
        rw [List.map_cons, List.flatMap_cons, ih fun d hd => h d (List.mem_cons_of_mem _ hd)]
        rfl
    rw [ht, Forest.foldr_push_texts]
  isWritable m hm := by
    obtain ⟨c, hc, rfl⟩ := List.mem_map.1 hm
    exact h c hc

theorem single {name : Text} (hn : IsPlainName name) {attributes : Written}
    (ha : AreWritable attributes) :
    Writes [.start true name attributes] (.element (bareTag name) attributes .nil) where
  nests := .single
  builds _ _ := rfl
  isWritable := by simpa [Mark.IsWritable] using ⟨hn, ha⟩

theorem element {name : Text} (hn : IsPlainName name) {attributes : Written}
    (ha : AreWritable attributes) {marks : List Mark} {g : Forest → Forest} (h : Writes marks g) :
    Writes (.start false name attributes :: (marks ++ [.closing name]))
      (.element (bareTag name) attributes (g .nil)) where
  nests hr := by
    rw [List.cons_append, List.append_assoc]
    exact .opening (h.nests (.closing hr))
  builds nodes outer := by
    rw [List.flatMap_cons, List.flatMap_append, List.foldr_append, List.foldr_append]
    have hc : ([Mark.closing name].flatMap Mark.tokens).foldr Forest.push (nodes, outer) =
        (.nil, nodes :: outer) := rfl
    rw [hc, h.builds]
    rfl
  isWritable m hm := by
    rcases List.mem_cons.1 hm with rfl | hm
    · exact ⟨hn, ha⟩
    rcases List.mem_append.1 hm with hm | hm
    · exact h.isWritable m hm
    · rw [List.mem_singleton] at hm
      subst hm
      exact hn

theorem flatMap {α : Type} {xs : List α} {f : α → List Mark} {g : α → Forest → Forest}
    (h : ∀ x ∈ xs, Writes (f x) (g x)) :
    Writes (xs.flatMap f) (fun rest => xs.foldr g rest) := by
  induction xs with
  | nil => exact nil
  | cons x xs ih =>
    exact (h x (List.mem_cons_self ..)).append (ih fun y hy => h y (List.mem_cons_of_mem _ hy))

end Writes

/-! ## Whole documents -/

theorem spread_ofFeed_written {f : Feed} {name : Text} (hn : IsPlainName name)
    {attributes : Written} (ha : AreWritable attributes) {marks : List Mark} {g : Forest → Forest}
    (h : Writes marks g)
    (hs : f.Spells (declaration ++
      '\n' :: writeAll (.start false name attributes :: (marks ++ [.closing name])))) :
    (Forest.ofFeed f).spread = .element (bareTag name) attributes (g .nil) .nil := by
  have hw := (h.element hn ha).isWritable
  have hnest : Nests [name] (marks ++ [.closing name]) := h.nests .root
  have hd : IsDocument (.start false name attributes :: (marks ++ [.closing name])) :=
    ⟨⟨name, attributes, _, rfl, hnest⟩, hw⟩
  have htokens : Around.tokens {} ((Mark.start false name attributes ::
      (marks ++ [.closing name])).flatMap Mark.events) =
      (Mark.start false name attributes :: (marks ++ [.closing name])).flatMap Mark.tokens := by
    rw [List.flatMap_cons, List.flatMap_cons,
      ← tokens_written hnest (List.forall_mem_cons.1 hw).2]
    simp only [Mark.events, Mark.tokens, List.cons_append, Around.tokens_cons,
      Around.step_opening ha.distinct, Bool.false_eq_true, if_false, List.nil_append]
    rfl
  rw [Forest.ofFeed, ← Forest.ofEvents_spread, spread_events_written hd hs, Forest.ofEvents,
    htokens, Forest.ofTokens, (h.element hn ha).builds]

end Markup
end DfaTable
