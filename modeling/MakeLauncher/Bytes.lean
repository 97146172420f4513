/-! Byte strings: the arguments, paths and values of variables that the system hands over. They are
in no particular encoding; a text becomes one through UTF-8. -/

namespace MakeLauncher

/-- A string of bytes, in any encoding or none. -/
abbrev Bytes := List UInt8

namespace Bytes

/-- The UTF-8 form of a list of characters. -/
def ofChars (chars : List Char) : Bytes := chars.flatMap String.utf8EncodeChar

def ofText (text : String) : Bytes := ofChars text.toList

instance : Coe String Bytes := ⟨ofText⟩

/-- The byte of an ASCII character. -/
def ascii (c : Char) : UInt8 := UInt8.ofNat c.toNat

/-- A slash separates the names of a path. -/
abbrev slash : UInt8 := ascii '/'

/-- A colon separates the entries of a search path. -/
abbrev colon : UInt8 := ascii ':'

theorem ofChars_append (left right : List Char) :
    ofChars (left ++ right) = ofChars left ++ ofChars right := by
  simp [ofChars]

theorem ofText_append (left right : String) :
    ofText (left ++ right) = ofText left ++ ofText right := by
  simp [ofText, ofChars_append]

end Bytes
end MakeLauncher
