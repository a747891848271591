import PrivacyScan.Pattern.Parser

/-!
Text in which personal data has been replaced by placeholders such as a name and a number in braces.
-/

namespace PrivacyScan.Mask

def placeholderPattern : Pattern := Pattern.ofText r"\{[A-Za-z_]+_[a-zA-Z0-9]+\}"

def isMasked (text : String) : Bool := placeholderPattern.occursIn text

def libraryNames : List String := ["privalyse_mask", "privalysemasker"]

def usesLibrary (code : String) : Bool := Text.containsAny (Text.lower code) libraryNames

end PrivacyScan.Mask
