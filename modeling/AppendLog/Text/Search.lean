/-!
# Texts within texts

Whether a text begins with another, and whether it holds another anywhere.
-/

namespace AppendLog.Text

/-- Whether `pattern` stands somewhere in the characters, without a gap. -/
def occursIn (pattern : List Char) : List Char → Bool
  | [] => pattern.isEmpty
  | c :: cs => pattern.isPrefixOf (c :: cs) || occursIn pattern cs

/-- Whether `text` begins with `start`. -/
def beginsWith (text start : String) : Bool := start.toList.isPrefixOf text.toList

/-- Whether `part` stands somewhere in `text`. -/
def holds (text part : String) : Bool := occursIn part.toList text.toList

theorem beginsWith_iff {text start : String} :
    beginsWith text start = true ↔ start.toList <+: text.toList :=
  List.isPrefixOf_iff_prefix

theorem occursIn_iff {pattern cs : List Char} : occursIn pattern cs = true ↔ pattern <:+: cs := by
  induction cs with
  | nil => simp [occursIn, List.isEmpty_iff]
  | cons c cs ih =>
    rw [occursIn, Bool.or_eq_true, List.isPrefixOf_iff_prefix, ih, List.infix_cons_iff]

theorem holds_iff {text part : String} : holds text part = true ↔ part.toList <:+: text.toList :=
  occursIn_iff

end AppendLog.Text
