/-!
# Letter case

Labels in reports are compared without regard to the case of the letters A to Z; every other
character stands for itself.
-/
namespace RaidProvision.Text

/-- Equality up to the case of ASCII letters. -/
def sameFold (a b : String) : Bool := a.toList.map Char.toLower == b.toList.map Char.toLower

theorem sameFold_refl (a : String) : sameFold a a := by simp [sameFold]

theorem sameFold_comm (a b : String) : sameFold a b = sameFold b a := by
  simp only [sameFold]
  exact Bool.beq_comm

end RaidProvision.Text
