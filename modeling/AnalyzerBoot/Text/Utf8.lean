import AnalyzerBoot.Word

/-!
Texts as byte strings.
-/

set_option autoImplicit false

namespace AnalyzerBoot.Text

def toUtf8 (text : String) : Bytes :=
  text.toUTF8.data.toList

/-- The text that some bytes encode, if they encode one. -/
def ofUtf8? (bytes : Bytes) : Option String :=
  String.fromUTF8? ⟨bytes.toArray⟩

theorem ofUtf8?_toUtf8 (text : String) : ofUtf8? (toUtf8 text) = some text := by
  simp only [ofUtf8?, toUtf8, Array.toArray_toList, String.fromUTF8?]
  exact dif_pos text.isValidUTF8

end AnalyzerBoot.Text
