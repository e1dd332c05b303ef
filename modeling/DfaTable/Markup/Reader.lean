import DfaTable.Markup.Data
import DfaTable.Markup.Declaration
import DfaTable.Markup.Doctype
import DfaTable.Markup.Event
import DfaTable.Markup.Extent

/-!
# DfaTable.Markup.Reader

How markup is read when nothing is rejected, while it comes in piece by piece. What has not come in
as a whole waits for the next piece, or for the end of the document. An end tag ends the innermost
open element, whatever its name; what follows the end of the root is not read. After a fault a
reference by name stands for nothing in text.
-/

namespace DfaTable.Markup

open Text

/-- An element that is open while its content is read. -/
structure Open where
  /-- The name as it is written. -/
  written : Text
  name : Name
  /-- The bindings that hold inside. -/
  bindings : Bindings

/-- Where in a document reading stands. -/
inductive Part where
  | beginning
  | prolog (mayHaveType : Bool)
  | subset
  | content
  | ended
deriving DecidableEq, Repr

/-- What is known of a document after a part of it has been read. -/
structure Progress where
  part : Part := .beginning
  isSound : Bool := true
  /-- Whether the document says that it stands alone. -/
  isAlone : Bool := false
  rules : Rules := {}
  /-- The open elements, from the inside out. -/
  stack : List Open := []
  /-- What has happened, the last first. -/
  events : List Event := []

namespace Progress

/-- Whether an unknown name may be declared outside the document. -/
def isLax (p : Progress) : Bool := p.rules.isOpen && !p.isAlone

/-- Goes on at another part of the document. -/
def goTo (p : Progress) (part : Part) (rest : Input) : Option (Progress × Input) :=
  some ({ p with part }, rest)

/-- Reads nothing more. -/
def stop (p : Progress) : Option (Progress × Input) := p.goTo .ended []

/-- Notes what happened and whether it was sound. -/
def note (p : Progress) (isSound : Bool) (events : List Event) : Progress :=
  { p with isSound := p.isSound && isSound, events := events.reverse ++ p.events }

/-- Goes on after an element has begun or ended: the end of the root is the end of all. -/
def resume (p : Progress) (rest : Input) : Option (Progress × Input) :=
  if p.stack.isEmpty then p.stop else p.goTo .content rest

/-- What a scan finds here, and the progress and the rest after it. -/
def scan {α : Type} (p : Progress) (s : Scan α) (t : Input) : α × Progress × Input :=
  let (found, place) := s.run { rest := t, isSound := p.isSound }
  (found, { p with isSound := place.isSound }, place.rest)

/-- The bindings that an element gets from its own attributes and from the rules. -/
def bindingsFor (p : Progress) (tag : StartTag) : Bindings :=
  let usual := ((p.rules.usual tag.name).filter fun a => isBinding a.1).map fun a =>
    if a.1 = bindingPrefix then (none, a.2) else (some (splitName a.1).2, a.2)
  usual.foldl addBinding (bindingsOf tag.attributes)

/-- Goes into the element of a start tag. -/
def enter (p : Progress) (tag : StartTag) (isSound : Bool) : Progress :=
  let outer := (p.stack.head?.map Open.bindings).getD reservedBindings
  let own := p.bindingsFor tag
  let bindings := own ++ outer
  let name := elementName bindings tag.name
  let plain := tag.attributes.filter fun a => !isBinding a.1
  let attributes := plain.map fun (written, value) => (attributeName bindings written, value)
  let opening := Event.opening name attributes own
  match tag.ending with
  | .opened =>
    let p := p.note isSound [opening]
    { p with stack := { written := tag.name, name, bindings } :: p.stack }
  | .single => p.note isSound [opening, .closing name]
  | .broken => p.note isSound [opening]

/-- The step over a start tag. -/
def tagStep (isLast : Bool) (p : Progress) (t : Input) : Option (Progress × Input) :=
  if !isLast && t.length < 2 then none
  else
    match t with
    | .char '<' :: t =>
      if !isLast && !hasTagEnd none t then none
      else
        match startTag? p.isLax p.rules.isWords t with
        | none => p.stop
        | some r => (p.enter r.value r.isSound).resume r.rest
    | _ => p.stop

/-- The step over an instruction, which the input follows. -/
def instructionStep (isLast : Bool) (p : Progress) (t : Input) : Option (Progress × Input) :=
  if !isLast && !hasMark "?>" t then none
  else
    let r := instruction t
    some (p.note r.isSound [.remark], r.rest)

/-- The step over a comment, which the input follows. -/
def commentStep (isLast : Bool) (p : Progress) (t : Input) : Option (Progress × Input) :=
  if !isLast && !hasMark "-->" t then none
  else
    let r := comment true t
    some (p.note r.isSound [.remark], r.rest)

/-- The step into a document. A mark before it is passed over. -/
def beginningStep (isLast : Bool) (p : Progress) (t : Input) : Option (Progress × Input) :=
  if !isLast && byteCount (t.take 4) < 4 then none
  else
    let t := (after? ['\uFEFF'] t).getD t
    if !isLast && t.length < 2 then none
    else
      match after? "<?".toList t with
      | none => p.goTo (.prolog true) t
      | some inside =>
        if !isLast && !hasMark "?>" inside then none
        else
          match after? "xml".toList inside with
          | none => p.goTo (.prolog true) t
          | some rest =>
            if startsWithSpace rest then
              let (isAlone, p, rest) := p.scan Declaration.read rest
              { p with isAlone }.goTo (.prolog true) rest
            else p.goTo (.prolog true) t

/-- The step over a document type, which the input follows. -/
def doctypeStep (isLast : Bool) (p : Progress) (t : Input) : Option (Progress × Input) :=
  if !isLast && !hasTagEnd none t then none
  else
    let ((rules, hasSubset), p, rest) := p.scan (Doctype.opening p.rules) t
    { p with rules }.goTo (if hasSubset then .subset else .prolog false) rest

/-- The step over the subset of a document type. -/
def subsetStep (isLast : Bool) (p : Progress) (t : Input) : Option (Progress × Input) :=
  if !isLast && !hasSubsetEnd .plain (t.drop 1) then none
  else
    let (rules, p, rest) := p.scan (Doctype.subset p.isAlone p.rules) t
    if rules.isHalted then p.stop else { p with rules }.goTo (.prolog false) rest

/-- The step over what stands before the root, or over its start tag. -/
def prologStep (isLast mayHaveType : Bool) (p : Progress) (t : Input) :
    Option (Progress × Input) :=
  match skipSpaces t with
  | [] => none
  | .char '<' :: .char '?' :: t => p.instructionStep isLast t
  | .char '<' :: .char '!' :: .char '-' :: .char '-' :: t => p.commentStep isLast t
  | t =>
    if startsWith "<!" t then
      if !isLast && (t.length < 4 || (mayHaveType && t.length < 9)) then none
      else
        match after? "<!DOCTYPE".toList t with
        | some rest => if mayHaveType then p.doctypeStep isLast rest else p.tagStep isLast t
        | none => p.tagStep isLast t
    else p.tagStep isLast t

/-- The step over an end tag, which the input follows. -/
def endStep (isLast : Bool) (p : Progress) (t : Input) : Option (Progress × Input) :=
  if !isLast && !hasMark ">" t then none
  else
    match p.stack with
    | [] => p.stop
    | o :: stack =>
      let (name, rest) := takeName t
      let ending := after? ['>'] (skipSpaces rest)
      let p := p.note (name == o.written && ending.isSome) [.closing o.name]
      { p with stack }.resume (ending.getD (skipSpaces rest))

/-- The step over a reference, which the input follows. -/
def referenceStep (isLast : Bool) (p : Progress) (t : Input) : Option (Progress × Input) :=
  if !isLast && !hasMark ";" t then none
  else
    let r := reference p.isLax t
    let c? :=
      match r.value with
      | .byNumber c => c
      | .byName c => if p.isSound then c else none
    some (p.note r.isSound (c?.toList.map fun c => .text [c]), r.rest)

/-- The step over text. -/
def dataStep (isLast : Bool) (p : Progress) (t : Input) : Option (Progress × Input) :=
  if !isLast && !hasDataEnd t then none
  else
    let r := characterData (!isLast) t
    some (p.note r.isSound [.text r.value], r.rest)

/-- The step over a section, which the input follows. -/
def sectionStep (isLast : Bool) (p : Progress) (t : Input) : Option (Progress × Input) :=
  if !isLast && !hasMark "]]>" t then none
  else
    let r := sectionData t
    some (p.note r.isSound (r.value.toList.map .text), r.rest)

/-- The step over the first piece of content. A declaration in it ends the reading. -/
def contentStep (isLast : Bool) (p : Progress) (t : Input) : Option (Progress × Input) :=
  match t with
  | [] => none
  | .char '<' :: .char '/' :: t => p.endStep isLast t
  | .char '<' :: .char '?' :: t => p.instructionStep isLast t
  | .char '<' :: .char '!' :: .char '-' :: .char '-' :: t => p.commentStep isLast t
  | .char '<' :: .char '!' :: t =>
    match after? "[CDATA[".toList t with
    | some inside => p.sectionStep isLast inside
    | none => if !isLast && t.length < 7 then none else p.stop
  | .char '<' :: t => p.tagStep isLast (.char '<' :: t)
  | .char '&' :: t => p.referenceStep isLast t
  | t => p.dataStep isLast t

/-- The next step, unless it has to wait. -/
def step (isLast : Bool) (p : Progress) (t : Input) : Option (Progress × Input) :=
  match p.part with
  | .beginning => p.beginningStep isLast t
  | .prolog mayHaveType => p.prologStep isLast mayHaveType t
  | .subset => p.subsetStep isLast t
  | .content => p.contentStep isLast t
  | .ended => none

/-- How much is left to be done. -/
def work (p : Progress) (t : Input) : Nat :=
  2 * t.length + if p.part = .beginning then 1 else 0

/-- Steps as long as there is something to read. -/
def run (isLast : Bool) (p : Progress) (t : Input) : Progress × Input :=
  match p.step isLast t with
  | none => (p, t)
  | some (q, rest) => if q.work rest < p.work t then q.run isLast rest else (q, rest)
termination_by p.work t

end Progress

/-- A document in the pieces in which it comes in. -/
structure Feed where
  pieces : List Input
  /-- What is only read together with the end of the document; nothing if the end does not come. -/
  last? : Option Input

namespace Feed

/-- Reads what can be read with one more piece; the rest waits. -/
def takePiece : Progress × Input → Input → Progress × Input
  | (p, waiting), piece => p.run false (waiting ++ piece)

/-- How far a document is read. -/
def progress (f : Feed) : Progress :=
  let (p, waiting) := f.pieces.foldl takePiece ({}, [])
  match f.last? with
  | some last => (p.run true (waiting ++ last)).1
  | none => p

/-- What happens while a document is read. -/
def events (f : Feed) : List Event := f.progress.events.reverse

end Feed

/-- The nodes of a document. -/
def Forest.ofFeed (f : Feed) : Forest := .ofEvents f.events

end DfaTable.Markup
