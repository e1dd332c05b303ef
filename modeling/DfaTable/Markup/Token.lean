import DfaTable.Markup

/-!
# DfaTable.Markup.Token

The tokens of a document and the forest that they describe. The forest is built from the last
token to the first, so what is open at the end is closed there.
-/

namespace DfaTable.Markup

inductive Token where
  | opening (tag : Tag) (attributes : Attributes)
  /-- Ends the innermost open element. -/
  | closing
  | text (t : Text)
  | remark
deriving DecidableEq, Repr

namespace Forest

/-- Puts a token before the nodes of its element; behind them are those of the elements around it,
from the inside out. -/
def push : Token → Forest × List Forest → Forest × List Forest
  | .text t, (nodes, outer) => (.text t nodes, outer)
  | .remark, (nodes, outer) => (.remark nodes, outer)
  | .closing, (nodes, outer) => (.nil, nodes :: outer)
  | .opening tag attributes, (nodes, next :: outer) => (.element tag attributes nodes next, outer)
  | .opening tag attributes, (nodes, []) => (.element tag attributes nodes .nil, [])

def ofTokens (tokens : List Token) : Forest := (tokens.foldr push (.nil, [])).1

end Forest
end DfaTable.Markup
