import RecordRules.Unicode.Age
import RecordRules.Unicode.Category
import RecordRules.Unicode.CharSet
import RecordRules.Unicode.GraphemeBreak
import RecordRules.Unicode.Property
import RecordRules.Unicode.Script
import RecordRules.Unicode.ScriptExtension
import RecordRules.Unicode.SentenceBreak
import RecordRules.Unicode.WordBreak

/-!
Sets of characters by the name of a Unicode property, or by a property and a value. Names are
compared loosely: letter case, spaces, underscores and hyphens do not matter, nor does `is` in
front.
-/

namespace RecordRules.Unicode

/-- Short and further names of the yes-or-no properties. -/
def propertyNames : List (String × String) := [
  ("ahex", "ASCII_Hex_Digit"), ("alpha", "Alphabetic"), ("bidic", "Bidi_Control"),
  ("bidim", "Bidi_Mirrored"), ("ci", "Case_Ignorable"), ("cwcf", "Changes_When_Casefolded"),
  ("cwcm", "Changes_When_Casemapped"), ("cwl", "Changes_When_Lowercased"),
  ("cwkcf", "Changes_When_NFKC_Casefolded"), ("cwt", "Changes_When_Titlecased"),
  ("cwu", "Changes_When_Uppercased"), ("di", "Default_Ignorable_Code_Point"),
  ("dep", "Deprecated"), ("dia", "Diacritic"), ("ecomp", "Emoji_Component"),
  ("emod", "Emoji_Modifier"), ("ebase", "Emoji_Modifier_Base"), ("epres", "Emoji_Presentation"),
  ("extpict", "Extended_Pictographic"), ("ext", "Extender"), ("grbase", "Grapheme_Base"),
  ("grext", "Grapheme_Extend"), ("grlink", "Grapheme_Link"), ("hex", "Hex_Digit"),
  ("idsb", "IDS_Binary_Operator"), ("idst", "IDS_Trinary_Operator"),
  ("idsu", "IDS_Unary_Operator"), ("idc", "ID_Continue"), ("ids", "ID_Start"),
  ("ideo", "Ideographic"), ("joinc", "Join_Control"), ("loe", "Logical_Order_Exception"),
  ("lower", "Lowercase"), ("mcm", "Modifier_Combining_Mark"),
  ("nchar", "Noncharacter_Code_Point"), ("oalpha", "Other_Alphabetic"),
  ("odi", "Other_Default_Ignorable_Code_Point"), ("ogrext", "Other_Grapheme_Extend"),
  ("oidc", "Other_ID_Continue"), ("oids", "Other_ID_Start"), ("olower", "Other_Lowercase"),
  ("omath", "Other_Math"), ("oupper", "Other_Uppercase"), ("patsyn", "Pattern_Syntax"),
  ("patws", "Pattern_White_Space"), ("pcm", "Prepended_Concatenation_Mark"),
  ("qmark", "Quotation_Mark"), ("ri", "Regional_Indicator"), ("sterm", "Sentence_Terminal"),
  ("sd", "Soft_Dotted"), ("term", "Terminal_Punctuation"), ("uideo", "Unified_Ideograph"),
  ("upper", "Uppercase"), ("vs", "Variation_Selector"), ("wspace", "White_Space"),
  ("space", "White_Space"), ("xidc", "XID_Continue"), ("xids", "XID_Start")]

/-- Long and further names of the general categories. -/
def categoryNames : List (String × String) := [
  ("control", "Cc"), ("cntrl", "Cc"), ("format", "Cf"), ("unassigned", "Cn"),
  ("privateuse", "Co"), ("lowercaseletter", "Ll"), ("modifierletter", "Lm"),
  ("otherletter", "Lo"), ("titlecaseletter", "Lt"), ("uppercaseletter", "Lu"),
  ("spacingmark", "Mc"), ("enclosingmark", "Me"), ("nonspacingmark", "Mn"),
  ("decimalnumber", "Nd"), ("digit", "Nd"), ("letternumber", "Nl"), ("othernumber", "No"),
  ("connectorpunctuation", "Pc"), ("dashpunctuation", "Pd"), ("closepunctuation", "Pe"),
  ("finalpunctuation", "Pf"), ("initialpunctuation", "Pi"), ("otherpunctuation", "Po"),
  ("openpunctuation", "Ps"), ("currencysymbol", "Sc"), ("modifiersymbol", "Sk"),
  ("mathsymbol", "Sm"), ("othersymbol", "So"), ("lineseparator", "Zl"),
  ("paragraphseparator", "Zp"), ("spaceseparator", "Zs")]

/-- The general categories that are unions of others, with their names and parts. -/
def categoryGroups : List (List String × List String) := [
  (["c", "other"], ["Cc", "Cf", "Cn", "Co"]),
  (["lc", "casedletter"], ["Ll", "Lt", "Lu"]),
  (["l", "letter"], ["Ll", "Lm", "Lo", "Lt", "Lu"]),
  (["m", "mark", "combiningmark"], ["Mc", "Me", "Mn"]),
  (["n", "number"], ["Nd", "Nl", "No"]),
  (["p", "punctuation", "punct"], ["Pc", "Pd", "Pe", "Pf", "Pi", "Po", "Ps"]),
  (["s", "symbol"], ["Sc", "Sk", "Sm", "So"]),
  (["z", "separator"], ["Zl", "Zp", "Zs"])]

def scriptNames : List (String × String) := [
  ("adlm", "Adlam"), ("hluw", "Anatolian_Hieroglyphs"), ("arab", "Arabic"), ("armn", "Armenian"),
  ("avst", "Avestan"), ("bali", "Balinese"), ("bamu", "Bamum"), ("bass", "Bassa_Vah"),
  ("batk", "Batak"), ("beng", "Bengali"), ("bhks", "Bhaiksuki"), ("bopo", "Bopomofo"),
  ("brah", "Brahmi"), ("brai", "Braille"), ("bugi", "Buginese"), ("buhd", "Buhid"),
  ("cans", "Canadian_Aboriginal"), ("cari", "Carian"), ("aghb", "Caucasian_Albanian"),
  ("cakm", "Chakma"), ("cher", "Cherokee"), ("chrs", "Chorasmian"), ("zyyy", "Common"),
  ("copt", "Coptic"), ("qaac", "Coptic"), ("xsux", "Cuneiform"), ("cprt", "Cypriot"),
  ("cpmn", "Cypro_Minoan"), ("cyrl", "Cyrillic"), ("dsrt", "Deseret"), ("deva", "Devanagari"),
  ("diak", "Dives_Akuru"), ("dogr", "Dogra"), ("dupl", "Duployan"),
  ("egyp", "Egyptian_Hieroglyphs"), ("elba", "Elbasan"), ("elym", "Elymaic"),
  ("ethi", "Ethiopic"), ("gara", "Garay"), ("geor", "Georgian"), ("glag", "Glagolitic"),
  ("goth", "Gothic"), ("gran", "Grantha"), ("grek", "Greek"), ("gujr", "Gujarati"),
  ("gong", "Gunjala_Gondi"), ("guru", "Gurmukhi"), ("gukh", "Gurung_Khema"), ("hani", "Han"),
  ("hang", "Hangul"), ("rohg", "Hanifi_Rohingya"), ("hano", "Hanunoo"), ("hatr", "Hatran"),
  ("hebr", "Hebrew"), ("hira", "Hiragana"), ("armi", "Imperial_Aramaic"), ("qaai", "Inherited"),
  ("zinh", "Inherited"), ("phli", "Inscriptional_Pahlavi"), ("prti", "Inscriptional_Parthian"),
  ("java", "Javanese"), ("kthi", "Kaithi"), ("knda", "Kannada"), ("kana", "Katakana"),
  ("kali", "Kayah_Li"), ("khar", "Kharoshthi"), ("kits", "Khitan_Small_Script"),
  ("khmr", "Khmer"), ("khoj", "Khojki"), ("sind", "Khudawadi"), ("krai", "Kirat_Rai"),
  ("laoo", "Lao"), ("latn", "Latin"), ("lepc", "Lepcha"), ("limb", "Limbu"),
  ("lina", "Linear_A"), ("linb", "Linear_B"), ("lyci", "Lycian"), ("lydi", "Lydian"),
  ("mahj", "Mahajani"), ("maka", "Makasar"), ("mlym", "Malayalam"), ("mand", "Mandaic"),
  ("mani", "Manichaean"), ("marc", "Marchen"), ("gonm", "Masaram_Gondi"),
  ("medf", "Medefaidrin"), ("mtei", "Meetei_Mayek"), ("mend", "Mende_Kikakui"),
  ("merc", "Meroitic_Cursive"), ("mero", "Meroitic_Hieroglyphs"), ("plrd", "Miao"),
  ("mong", "Mongolian"), ("mroo", "Mro"), ("mult", "Multani"), ("mymr", "Myanmar"),
  ("nbat", "Nabataean"), ("nagm", "Nag_Mundari"), ("nand", "Nandinagari"),
  ("talu", "New_Tai_Lue"), ("nkoo", "Nko"), ("nshu", "Nushu"),
  ("hmnp", "Nyiakeng_Puachue_Hmong"), ("ogam", "Ogham"), ("olck", "Ol_Chiki"),
  ("onao", "Ol_Onal"), ("hung", "Old_Hungarian"), ("ital", "Old_Italic"),
  ("narb", "Old_North_Arabian"), ("perm", "Old_Permic"), ("xpeo", "Old_Persian"),
  ("sogo", "Old_Sogdian"), ("sarb", "Old_South_Arabian"), ("orkh", "Old_Turkic"),
  ("ougr", "Old_Uyghur"), ("orya", "Oriya"), ("osge", "Osage"), ("osma", "Osmanya"),
  ("hmng", "Pahawh_Hmong"), ("palm", "Palmyrene"), ("pauc", "Pau_Cin_Hau"), ("phag", "Phags_Pa"),
  ("phnx", "Phoenician"), ("phlp", "Psalter_Pahlavi"), ("rjng", "Rejang"), ("runr", "Runic"),
  ("samr", "Samaritan"), ("saur", "Saurashtra"), ("shrd", "Sharada"), ("shaw", "Shavian"),
  ("sidd", "Siddham"), ("sgnw", "SignWriting"), ("sinh", "Sinhala"), ("sogd", "Sogdian"),
  ("sora", "Sora_Sompeng"), ("soyo", "Soyombo"), ("sund", "Sundanese"), ("sunu", "Sunuwar"),
  ("sylo", "Syloti_Nagri"), ("syrc", "Syriac"), ("tglg", "Tagalog"), ("tagb", "Tagbanwa"),
  ("tale", "Tai_Le"), ("lana", "Tai_Tham"), ("tavt", "Tai_Viet"), ("takr", "Takri"),
  ("taml", "Tamil"), ("tnsa", "Tangsa"), ("tang", "Tangut"), ("telu", "Telugu"),
  ("thaa", "Thaana"), ("tibt", "Tibetan"), ("tfng", "Tifinagh"), ("tirh", "Tirhuta"),
  ("todr", "Todhri"), ("tutg", "Tulu_Tigalari"), ("ugar", "Ugaritic"), ("vaii", "Vai"),
  ("vith", "Vithkuqi"), ("wcho", "Wancho"), ("wara", "Warang_Citi"), ("yezi", "Yezidi"),
  ("yiii", "Yi"), ("zanb", "Zanabazar_Square")]

def graphemeBreakNames : List (String × String) := [
  ("pp", "Prepend"), ("cn", "Control"), ("ri", "Regional_Indicator"), ("sm", "SpacingMark"),
  ("ex", "Extend")]

def wordBreakNames : List (String × String) := [
  ("ml", "MidLetter"), ("nu", "Numeric"), ("dq", "Double_Quote"), ("mb", "MidNumLet"),
  ("sq", "Single_Quote"), ("fo", "Format"), ("mn", "MidNum"), ("ex", "ExtendNumLet"),
  ("le", "ALetter"), ("ri", "Regional_Indicator"), ("hl", "Hebrew_Letter"), ("nl", "Newline"),
  ("ka", "Katakana")]

def sentenceBreakNames : List (String × String) := [
  ("nu", "Numeric"), ("le", "OLetter"), ("fo", "Format"), ("lo", "Lower"), ("se", "Sep"),
  ("sc", "SContinue"), ("ex", "Extend"), ("at", "ATerm"), ("st", "STerm"), ("up", "Upper"),
  ("cl", "Close")]

/-- A name without what does not matter in it. What is left of `isc` names a property of its own
and not the category `c`. -/
def looseName (name : List Char) : String :=
  let squeeze (cs : List Char) :=
    (cs.filter fun c => c.toNat < 128 && c != ' ' && c != '_' && c != '-').map Char.toLower
  match name with
  | a :: b :: rest =>
    if a.toLower = 'i' ∧ b.toLower = 's' then
      let short := squeeze rest
      String.ofList (if short = ['c'] then ['i', 's', 'c'] else short)
    else String.ofList (squeeze name)
  | _ => String.ofList (squeeze name)

/-- The row of a table by a loose name: the row's own name or one of its further names. -/
def row? (rows : List (String × List String)) (names : List (String × String))
    (name : String) : Option CharSet :=
  let own := rows.find? fun (key, _) => looseName key.toList == name
  let found := own.orElse fun _ =>
    match names.find? fun (short, _) => short == name with
    | some (_, key) => rows.find? fun row => row.1 == key
    | none => none
  found.map fun (_, row) => CharSet.ofRow row

def categoryByShortName (name : String) : CharSet :=
  match categoryRows.find? fun row => row.1 == name with
  | some (_, row) => CharSet.ofRow row
  | none => .empty

def category? (name : String) : Option CharSet :=
  match name with
  | "any" => some .full
  | "assigned" => some (categoryByShortName "Cn").complement
  | "ascii" => some ⟨[(0, 0x7F)]⟩
  | _ =>
    match categoryGroups.find? fun (names, _) => names.contains name with
    | some (_, parts) =>
      some (CharSet.ofRanges (parts.flatMap fun part => (categoryByShortName part).ranges))
    | none => row? categoryRows categoryNames name

def script? (name : String) : Option CharSet :=
  row? scriptRows scriptNames name

/-- The characters used with a script, its own if no others are. -/
def scriptExtension? (name : String) : Option CharSet :=
  (row? scriptExtensionRows scriptNames name).orElse fun _ => script? name

/-- The characters assigned up to a version; the versions are written like `6.0` or `V6_0`. -/
def age? (name : String) : Option CharSet :=
  let isNamed (version : String) :=
    version == name || looseName ('V' :: version.toList.filter (· != '.')) == name
  let upTo := ageRows.takeWhile fun (version, _) => !isNamed version
  match ageRows.find? fun (version, _) => isNamed version with
  | some last =>
    some (CharSet.ofRanges ((upTo ++ [last]).flatMap fun (_, row) => (CharSet.ofRow row).ranges))
  | none => none

/-- The set named by a property or value alone: a yes-or-no property, a general category or a
script. -/
def byName? (name : List Char) : Option CharSet :=
  let name := looseName name
  let property :=
    if name == "cf" || name == "sc" || name == "lc" then none
    else row? propertyRows propertyNames name
  (property.orElse fun _ => category? name).orElse fun _ => script? name

def byValue? (property value : List Char) : Option CharSet :=
  let value := looseName value
  match looseName property with
  | "gc" | "generalcategory" => category? value
  | "sc" | "script" => script? value
  | "scx" | "scriptextensions" => scriptExtension? value
  | "age" => age? value
  | "gcb" | "graphemeclusterbreak" => row? graphemeBreakRows graphemeBreakNames value
  | "wb" | "wordbreak" => row? wordBreakRows wordBreakNames value
  | "sb" | "sentencebreak" => row? sentenceBreakRows sentenceBreakNames value
  | _ => none

def digits : CharSet :=
  categoryByShortName "Nd"

/-- The characters of words: letters, marks, decimal digits, connectors and joiners. -/
def wordChars : CharSet :=
  let alphabetic := (row? propertyRows [] "alphabetic").getD .empty
  let joiners := (row? propertyRows [] "joincontrol").getD .empty
  CharSet.ofRanges (alphabetic.ranges ++ joiners.ranges ++
    ["Mc", "Me", "Mn", "Nd", "Pc"].flatMap fun part => (categoryByShortName part).ranges)

def space : CharSet :=
  (row? propertyRows [] "whitespace").getD .empty

end RecordRules.Unicode
