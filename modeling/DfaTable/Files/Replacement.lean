import DfaTable.Files.Writing

/-!
# DfaTable.Files.Replacement

A file is replaced as a whole: the text is written to a draft beside it, which is then moved over
it. If anything goes wrong on the way, the draft is taken away again.
-/

namespace DfaTable.Files

namespace Draft

/-- The number of characters by which drafts of one file differ. -/
def width : Nat := 8

/-- The name of a draft of a file. -/
def name (file : Text) (n : Nat) : Text :=
  let digits := Numeral.ofNat n
  '.' :: file ++ '.' :: (List.replicate (width - digits.length) '0' ++ digits) ++ ".tmp".toList

/-- The first number whose draft is not there yet; there is one below the number of entries
and one more. -/
def number (t : Tree) (directory : Place) (file : Text) : Nat :=
  let count := t.entries.length
  let isFree := fun n => !t.entries.any fun e => e.1 == directory ++ [name file n]
  ((List.range count).find? isFree).getD count

/-- Makes an empty draft in the directory of a file and gives its path from the root. -/
def make (p : Path) : Work Path := do
  let w ← get
  let directory := Path.settle ((if p.root.isEmpty then w.home else []) ++ p.names.dropLast)
  let n := number w.files directory p.name
  let draft : Path := { root := ['/'], names := directory ++ [name p.name n] }
  touch draft
  return draft

end Draft

/-- Replaces a file. A fault before the draft is moved leaves the file as it was; then the draft is
taken away, and the new fault names the file. -/
def replace (p : Path) (encoding : Text) (c : Content) : Work Unit := do
  haveDirectories p.parent
  let draft ← Draft.make p
  tryCatch
    (do
      write draft false encoding c
      move draft p
      Work.report .debug "utils.atomic" "atomic_write_success" [Journal.textField "path" p.write])
    fun f => do
      Work.report .error "utils.atomic" "atomic_write_failed"
        [Journal.textField "path" p.write, Journal.textField "error" f.message]
      if ← isThere draft then remove draft
      throw (.replacement p.write f.message)

end DfaTable.Files
