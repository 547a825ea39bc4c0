import PatternKit.Regex.Ast
import PatternKit.Regex.Diagnosis
import PatternKit.Unicode.Age
import PatternKit.Unicode.Category
import PatternKit.Unicode.GraphemeBreak
import PatternKit.Unicode.Property
import PatternKit.Unicode.Script
import PatternKit.Unicode.SentenceBreak
import PatternKit.Unicode.WordBreak

/-!
Sets of characters behind the properties named in pattern text.
-/

set_option autoImplicit false

namespace PatternKit.Regex.Property

open Unicode

/-- Names of general categories and scripts that stand for no set of characters. -/
def withoutSet : List String :=
  ["cs", "surrogate", "zzzz", "unknown", "hrkt", "katakanaorhiragana"]

/-- Names of properties of which no value has a set of characters. -/
def otherProperties : List String :=
  ["bc", "bidiclass", "bidimirroringglyph", "bidipairedbracket", "bidipairedbrackettype", "blk",
    "block", "bmg", "bpb", "bpt", "canonicalcombiningclass", "casefolding", "ccc", "ce", "cf",
    "changeswhennfkccasefolded", "cjkaccountingnumeric", "cjkcompatibilityvariant", "cjkiicore",
    "cjkirggsource", "cjkirghsource", "cjkirgjsource", "cjkirgkpsource", "cjkirgksource",
    "cjkirgmsource", "cjkirgssource", "cjkirgtsource", "cjkirguksource", "cjkirgusource",
    "cjkirgvsource", "cjkothernumeric", "cjkprimarynumeric", "cjkrsunicode", "compex",
    "compositionexclusion", "cwkcf", "decompositionmapping", "decompositiontype", "dm", "dt", "ea",
    "eastasianwidth", "equideo", "equivalentunifiedideograph", "expandsonnfc", "expandsonnfd",
    "expandsonnfkc", "expandsonnfkd", "fcnfkc", "fcnfkcclosure", "fullcompositionexclusion",
    "hangulsyllabletype", "hst", "incb", "indicconjunctbreak", "indicpositionalcategory",
    "indicsyllabiccategory", "inpc", "insc", "isc", "jamoshortname", "jg", "joininggroup",
    "joiningtype", "jsn", "jt", "kaccountingnumeric", "kcompatibilityvariant", "kehcat", "kehdesc",
    "kehhg", "kehifao", "kehjsesh", "kehnomirror", "kehnorotate", "kiicore", "kirggsource",
    "kirghsource", "kirgjsource", "kirgkpsource", "kirgksource", "kirgmsource", "kirgssource",
    "kirgtsource", "kirguksource", "kirgusource", "kirgvsource", "kothernumeric", "kprimarynumeric",
    "krsunicode", "lb", "lc", "linebreak", "lowercasemapping", "na", "na1", "name", "namealias",
    "nfcqc", "nfcquickcheck", "nfdqc", "nfdquickcheck", "nfkccasefold", "nfkccf", "nfkcqc",
    "nfkcquickcheck", "nfkcscf", "nfkcsimplecasefold", "nfkdqc", "nfkdquickcheck", "nt",
    "numerictype", "numericvalue", "nv", "ocomment", "scf", "sfc", "simplecasefolding",
    "simplelowercasemapping", "simpletitlecasemapping", "simpleuppercasemapping", "slc", "stc",
    "suc", "tc", "titlecasemapping", "uc", "unicode1name", "unicoderadicalstroke",
    "uppercasemapping", "urs", "verticalorientation", "vo", "xonfc", "xonfd", "xonfkc", "xonfkd"]

/-- The set behind a name: a binary property, a general category or a script. Three names could be short
for a property, and are categories. -/
def named (name : String) : Except Fault CharSet :=
  let binary := if ["cf", "sc", "lc"].contains name then none else property? name
  match binary.or ((category? name).or (script? name)) with
  | some s => .ok s
  | none => .error (if withoutSet.contains name then .propertyValueNotFound else .propertyNotFound)

/-- The set of the characters that have a value of a property. -/
def valued (name value : String) : Except Fault CharSet :=
  let found (s : Option CharSet) : Except Fault CharSet :=
    match s with
    | some s => .ok s
    | none => .error .propertyValueNotFound
  if name = "gc" || name = "generalcategory" then found (category? value)
  else if name = "sc" || name = "script" then found (script? value)
  else if name = "scx" || name = "scriptextensions" then found (scriptExtension? value)
  else if name = "age" then found (age? value)
  else if name = "gcb" || name = "graphemeclusterbreak" then found (graphemeBreak? value)
  else if name = "wb" || name = "wordbreak" then found (wordBreak? value)
  else if name = "sb" || name = "sentencebreak" then found (sentenceBreak? value)
  else if otherProperties.contains name || (property? name).isSome then .error .propertyValueNotFound
  else .error .propertyNotFound

/-- The set that a query asks for. -/
def resolve : PropertyQuery → Except Fault CharSet
  | .name name => named (normalizeName name)
  | .valued name value => valued (normalizeName name) (normalizeName value)

end PatternKit.Regex.Property
