import Remittance.Text.Printable.Table

/-!
# Printable characters

The characters that show on a line of a log as themselves.
-/

namespace Remittance.Text

/-- The character has a visible form, or is the plain space. -/
def isPrintable (c : Char) : Bool :=
  !Printable.hidden.any fun (first, last) => first ≤ c.toNat && c.toNat ≤ last

end Remittance.Text
