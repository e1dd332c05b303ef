import DfaTable.Markup.Event

/-!
# DfaTable.Proofs.Markup.Spread

Where a text is cut into nodes is a matter of how a document came in. Spreading cuts every text into
its single characters, and with them goes the difference.

* `ofEvents_spread`: events that are spread describe the forest that is spread.
* `elements_spread`, `content_spread`: spreading a forest changes no element and no content.
-/

namespace DfaTable
namespace Markup

/-- The event, a text as one event for each character. -/
def Event.spread : Event → List Event
  | .text t => t.map fun c => .text [c]
  | .opening name attributes bindings => [.opening name attributes bindings]
  | .closing name => [.closing name]
  | .remark => [.remark]

/-- The token, a text as one token for each character. -/
def Token.spread : Token → List Token
  | .text t => t.map fun c => .text [c]
  | .opening tag attributes => [.opening tag attributes]
  | .closing => [.closing]
  | .remark => [.remark]

namespace Forest

/-- Puts one node for each character of a text before others. -/
def pushText (t : Text) (rest : Forest) : Forest := t.foldr (fun c f => .text [c] f) rest

/-- The forest, every text as one node for each character. -/
def spread : Forest → Forest
  | nil => nil
  | text t rest => pushText t (spread rest)
  | remark rest => remark (spread rest)
  | element tag attributes inner rest => element tag attributes (spread inner) (spread rest)

end Forest

def Element.spread (e : Element) : Element := { e with inner := e.inner.spread }

/-! ## From events to forests -/

theorem Around.tokens_append_texts (a : Around) (t : Text) (events : List Event) :
    a.tokens (t.map (fun c => .text [c]) ++ events) =
      t.map (fun c => .text [c]) ++ a.tokens events := by
  induction t with
  | nil => rfl
  | cons c t ih =>
    show .text [c] :: a.tokens (t.map (fun c => .text [c]) ++ events) = _
    rw [ih]
    rfl

theorem Around.tokens_spread (a : Around) (events : List Event) :
    a.tokens (events.flatMap Event.spread) = (a.tokens events).flatMap Token.spread := by
  induction events generalizing a with
  | nil => rfl
  | cons e events ih =>
    rw [List.flatMap_cons]
    cases e with
    | text t =>
      rw [Event.spread, Around.tokens_append_texts, ih]
      rfl
    | remark =>
      show .remark :: a.tokens (events.flatMap Event.spread) = _
      rw [ih]
      rfl
    | opening name attributes bindings =>
      simp only [Event.spread, List.singleton_append, Around.tokens, Around.step, ih,
        List.flatMap_cons, Token.spread]
    | closing name =>
      simp only [Event.spread, List.singleton_append, Around.tokens, Around.step, ih,
        List.flatMap_append]
      congr 1
      generalize (Around.endOf (a.tagOf name) a.tags).1 = count
      induction count with
      | zero => rfl
      | succ n ih => rw [List.replicate_succ, List.flatMap_cons, ← ih]; rfl

namespace Forest

/-- What was built from tokens, spread. -/
def spreadBuilt (b : Forest × List Forest) : Forest × List Forest :=
  (b.1.spread, b.2.map spread)

theorem foldr_push_texts (t : Text) (b : Forest × List Forest) :
    (t.map fun c => Token.text [c]).foldr push b = (pushText t b.1, b.2) := by
  induction t with
  | nil => rfl
  | cons c t ih =>
    rw [List.map_cons, List.foldr_cons, ih]
    rfl

theorem foldr_push_spread (tok : Token) (b : Forest × List Forest) :
    tok.spread.foldr push (spreadBuilt b) = spreadBuilt (push tok b) := by
  obtain ⟨nodes, outer⟩ := b
  cases tok with
  | text t =>
    rw [Token.spread, foldr_push_texts]
    rfl
  | opening tag attributes => cases outer <;> rfl
  | closing => rfl
  | remark => rfl

theorem ofTokens_spread (tokens : List Token) :
    ofTokens (tokens.flatMap Token.spread) = (ofTokens tokens).spread := by
  have h : (tokens.flatMap Token.spread).foldr push (.nil, []) =
      spreadBuilt (tokens.foldr push (.nil, [])) := by
    induction tokens with
    | nil => rfl
    | cons tok tokens ih =>
      rw [List.flatMap_cons, List.foldr_append, ih, foldr_push_spread]
      rfl
  exact congrArg Prod.fst h

theorem ofEvents_spread (events : List Event) :
    ofEvents (events.flatMap Event.spread) = (ofEvents events).spread := by
  rw [ofEvents, ofEvents, Around.tokens_spread, ofTokens_spread]

/-! ## What spreading leaves alone -/

@[simp] theorem elements_pushText (name t : Text) (f : Forest) :
    (pushText t f).elements name = f.elements name := by
  induction t with
  | nil => rfl
  | cons c t ih => exact ih

@[simp] theorem content_pushText (t : Text) (f : Forest) :
    (pushText t f).content = t ++ f.content := by
  induction t with
  | nil => rfl
  | cons c t ih =>
    show c :: (pushText t f).content = _
    rw [ih]
    rfl

@[simp] theorem root?_pushText (t : Text) (f : Forest) : (pushText t f).root? = f.root? := by
  induction t with
  | nil => rfl
  | cons c t ih => exact ih

theorem elements_spread (name : Text) (f : Forest) :
    f.spread.elements name = (f.elements name).map Element.spread := by
  induction f with
  | nil => rfl
  | text t rest ih => simpa [spread, elements] using ih
  | remark rest ih => simpa [spread, elements] using ih
  | element tag attributes inner rest ihi ihr =>
    simp only [spread, elements, ihi, ihr]
    split
    · rw [List.map_cons, List.map_append]
      rfl
    · rw [List.map_append]

theorem content_spread (f : Forest) : f.spread.content = f.content := by
  induction f with
  | nil => rfl
  | text t rest ih => simp [spread, content, ih]
  | remark rest ih => simpa [spread, content] using ih
  | element tag attributes inner rest ihi ihr => simp [spread, content, ihi, ihr]

theorem root?_spread (f : Forest) : f.spread.root? = f.root?.map Element.spread := by
  induction f with
  | nil => rfl
  | text t rest ih => simpa [spread, root?] using ih
  | remark rest ih => simpa [spread, root?] using ih
  | element tag attributes inner rest => rfl

theorem first?_spread (name : Text) (f : Forest) :
    f.spread.first? name = (f.first? name).map Element.spread := by
  rw [first?, elements_spread, List.head?_map]
  rfl

end Forest

@[simp] theorem Element.attribute?_spread (e : Element) (name : Text) :
    e.spread.attribute? name = e.attribute? name := rfl

@[simp] theorem Element.holds_spread (e : Element) (name : Text) :
    e.spread.holds name = e.holds name := by
  rw [holds, spread, Forest.first?_spread, Option.isSome_map]
  rfl

end Markup
end DfaTable
