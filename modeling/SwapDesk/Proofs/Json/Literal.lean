import SwapDesk.Proofs.Json.Text

/-!
# Integer literals

Which texts are read as a natural number of 64 bits: its decimal digits and no others. A sign, a
point, an exponent or a number that is too great makes the value a double.
-/

namespace SwapDesk.Json

open Decimal (IsDigits IsCanonical digits)

namespace Grammar

variable {s rest run whole fraction : List Char}

end Grammar

end SwapDesk.Json
