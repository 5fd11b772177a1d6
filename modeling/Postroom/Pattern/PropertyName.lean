import Postroom.Unicode.Break

/-!
# Names of character properties

How a pattern names a property, a general category, a script, an edition of the standard or a class
of break behaviour.  Case, blanks, hyphens and low lines do not count, nor does `is` in front, and
most names have a short form.
-/

namespace Postroom.PropertyName

/-- A name in the form in which names are compared. -/
def normal (name : Text) : Text :=
  let isLed := Text.sameName (name.take 2) ['i', 's']
  let rest := if isLed then name.drop 2 else name
  let kept := (rest.filter fun c => c ≠ ' ' ∧ c ≠ '_' ∧ c ≠ '-' ∧ c.toNat < 0x80).map Char.toLower
  if isLed ∧ kept = ['c'] then ['i', 's', 'c'] else kept

/-- The two names are equal in the form in which names are compared. -/
def same (given : Text) (name : String) : Bool :=
  given == normal name.toList

/-- The short names of the properties. -/
def propertyNames : List (String × String) :=
  [("AHex", "ASCII_Hex_Digit"), ("Alpha", "Alphabetic"), ("Bidi_C", "Bidi_Control"),
   ("Bidi_M", "Bidi_Mirrored"), ("CI", "Case_Ignorable"), ("Cased", "Cased"),
   ("CWCF", "Changes_When_Casefolded"), ("CWCM", "Changes_When_Casemapped"),
   ("CWL", "Changes_When_Lowercased"), ("CWT", "Changes_When_Titlecased"),
   ("CWU", "Changes_When_Uppercased"), ("Dash", "Dash"), ("DI", "Default_Ignorable_Code_Point"),
   ("Dep", "Deprecated"), ("Dia", "Diacritic"), ("Emoji", "Emoji"), ("EComp", "Emoji_Component"),
   ("EMod", "Emoji_Modifier"), ("EBase", "Emoji_Modifier_Base"), ("EPres", "Emoji_Presentation"),
   ("ExtPict", "Extended_Pictographic"), ("Ext", "Extender"), ("Gr_Base", "Grapheme_Base"),
   ("Gr_Ext", "Grapheme_Extend"), ("Gr_Link", "Grapheme_Link"), ("Hex", "Hex_Digit"),
   ("Hyphen", "Hyphen"), ("IDSB", "IDS_Binary_Operator"), ("IDST", "IDS_Trinary_Operator"),
   ("IDSU", "IDS_Unary_Operator"), ("ID_Compat_Math_Continue", "ID_Compat_Math_Continue"),
   ("ID_Compat_Math_Start", "ID_Compat_Math_Start"), ("IDC", "ID_Continue"), ("IDS", "ID_Start"),
   ("Ideo", "Ideographic"), ("Join_C", "Join_Control"), ("LOE", "Logical_Order_Exception"),
   ("Lower", "Lowercase"), ("Math", "Math"), ("MCM", "Modifier_Combining_Mark"),
   ("NChar", "Noncharacter_Code_Point"), ("OAlpha", "Other_Alphabetic"),
   ("ODI", "Other_Default_Ignorable_Code_Point"), ("OGr_Ext", "Other_Grapheme_Extend"),
   ("OIDC", "Other_ID_Continue"), ("OIDS", "Other_ID_Start"), ("OLower", "Other_Lowercase"),
   ("OMath", "Other_Math"), ("OUpper", "Other_Uppercase"), ("Pat_Syn", "Pattern_Syntax"),
   ("Pat_WS", "Pattern_White_Space"), ("PCM", "Prepended_Concatenation_Mark"),
   ("QMark", "Quotation_Mark"), ("Radical", "Radical"), ("RI", "Regional_Indicator"),
   ("STerm", "Sentence_Terminal"), ("SD", "Soft_Dotted"), ("Term", "Terminal_Punctuation"),
   ("UIdeo", "Unified_Ideograph"), ("Upper", "Uppercase"), ("VS", "Variation_Selector"),
   ("space", "White_Space"), ("WSpace", "White_Space"), ("XIDC", "XID_Continue"),
   ("XIDS", "XID_Start")]

/-- The names of the general categories: the category, its long name, and a further name. -/
def categoryNames : List (Unicode.Category × String × String) :=
  [(.cc, "Control", "cntrl"), (.cf, "Format", "Cf"), (.cn, "Unassigned", "Cn"),
   (.co, "Private_Use", "Co"), (.ll, "Lowercase_Letter", "Ll"), (.lm, "Modifier_Letter", "Lm"),
   (.lo, "Other_Letter", "Lo"), (.lt, "Titlecase_Letter", "Lt"), (.lu, "Uppercase_Letter", "Lu"),
   (.mc, "Spacing_Mark", "Mc"), (.me, "Enclosing_Mark", "Me"), (.mn, "Nonspacing_Mark", "Mn"),
   (.nd, "Decimal_Number", "digit"), (.nl, "Letter_Number", "Nl"), (.no, "Other_Number", "No"),
   (.pc, "Connector_Punctuation", "Pc"), (.pd, "Dash_Punctuation", "Pd"),
   (.pe, "Close_Punctuation", "Pe"), (.pf, "Final_Punctuation", "Pf"),
   (.pi, "Initial_Punctuation", "Pi"), (.po, "Other_Punctuation", "Po"),
   (.ps, "Open_Punctuation", "Ps"), (.sc, "Currency_Symbol", "Sc"),
   (.sk, "Modifier_Symbol", "Sk"), (.sm, "Math_Symbol", "Sm"), (.so, "Other_Symbol", "So"),
   (.zl, "Line_Separator", "Zl"), (.zp, "Paragraph_Separator", "Zp"),
   (.zs, "Space_Separator", "Zs")]

/-- The classes of general categories: a short name, a long name, and a further name. -/
def classNames : List (Char × String × String) :=
  [('C', "Other", "C"), ('L', "Letter", "L"), ('M', "Mark", "Combining_Mark"), ('N', "Number", "N"),
   ('P', "Punctuation", "punct"), ('S', "Symbol", "S"), ('Z', "Separator", "Z")]

/-- The categories of the class of this letter. -/
def categoriesOf (letter : Char) : List Unicode.Category :=
  (Unicode.Category.named.map (·.2)).filter fun c => c.major == some letter

/-- The set that a name of a general category stands for. -/
def category? (name : Text) : Option CodeSet :=
  if same name "Any" then some .all
  else if same name "Assigned" then some (Unicode.categorySet [.cn]).compl
  else if same name "ASCII" then some (.span 0 0x7F)
  else if same name "LC" || same name "Cased_Letter" then
    some (Unicode.categorySet [.lu, .ll, .lt])
  else
    match categoryNames.find? fun entry => same name entry.2.1 || same name entry.2.2 ||
        (Unicode.Category.named.any fun n => n.2 == entry.1 && same name n.1) with
    | some entry => some (Unicode.categorySet [entry.1])
    | none =>
      (classNames.find? fun entry => name == [entry.1.toLower] || same name entry.2.1 ||
        same name entry.2.2).map fun entry => Unicode.categorySet (categoriesOf entry.1)

/-- The code of the script of this name. -/
def scriptCode? (name : Text) : Option Text :=
  if same name "Qaac" then some "Copt".toList
  else if same name "Qaai" then some "Zinh".toList
  else
    (Unicode.scriptNames.find? fun entry =>
      same name entry.1 || same name entry.2).map (·.1.toList)

/-- The set that a name of a property stands for. -/
def property? (name : Text) : Option CodeSet :=
  (propertyNames.find? fun entry => same name entry.1 || same name entry.2).bind fun entry =>
    Unicode.PropertySet.ofName? entry.2

/-- The set that a name stands for: a property, a general category or a script.  Three names of
properties are taken as names of categories. -/
def set? (name : Text) : Option CodeSet :=
  let name := normal name
  let isCategory := name == ['c', 'f'] || name == ['s', 'c'] || name == ['l', 'c']
  match if isCategory then none else property? name with
  | some set => some set
  | none => (category? name).or ((scriptCode? name).map Unicode.scriptSet)

/-- The set of what an edition of the standard and those before it assigned; the name of an edition
may begin with `v`. -/
def edition? (name : Text) : Option CodeSet :=
  let editions := Unicode.editions.takeWhile (·.2 ≠ "17.0")
  (editions.find? fun entry =>
    name == entry.2.toList || name == 'v' :: entry.2.toList.filter (· ≠ '.')).map fun entry =>
      Unicode.assignedBy entry.2

/-- The set that a value of a class of break behaviour stands for. -/
def break? (names : List (String × String)) (sets : String → Option CodeSet) (value : Text) :
    Option CodeSet :=
  (names.find? fun entry => same value entry.1 || same value entry.2).bind fun entry => sets entry.2

/-- The set that a value of a property stands for. -/
def valueSet? (property value : Text) : Option CodeSet :=
  let property := normal property
  let value := normal value
  let is := fun (short long : String) => same property short || same property long
  if is "gc" "General_Category" then category? value
  else if is "sc" "Script" then (scriptCode? value).map Unicode.scriptSet
  else if is "scx" "Script_Extensions" then (scriptCode? value).map Unicode.usedBy
  else if is "age" "Age" then edition? value
  else if is "gcb" "Grapheme_Cluster_Break" then
    break? Unicode.Break.clusterNames Unicode.Break.cluster value
  else if is "sb" "Sentence_Break" then
    break? Unicode.Break.sentenceNames Unicode.Break.sentence value
  else if is "wb" "Word_Break" then break? Unicode.Break.wordNames Unicode.Break.word value
  else none

end Postroom.PropertyName
