import Tabular.Encoding.Utf16
import Tabular.Encoding.Utf8

/-!
# Reading files as text

A byte order mark at the start of a file tells its encoding and is no part of the text. Without one
the file is in UTF-8.
-/

namespace Tabular.Encoding

/-- The text of a definition file, with every invalid item replaced. -/
def decode : List UInt8 → List Char
  | 0xEF :: 0xBB :: 0xBF :: bytes => replaceInvalid (utf8Items none bytes)
  | 0xFF :: 0xFE :: bytes => replaceInvalid (utf16Items .little none bytes)
  | 0xFE :: 0xFF :: bytes => replaceInvalid (utf16Items .big none bytes)
  | bytes => replaceInvalid (utf8Items none bytes)

end Tabular.Encoding
