import LineShell.Regex.Pattern
import LineShell.Text.Age
import LineShell.Text.Break

/-!
# Properties by their names

A pattern names a property of characters, or a property and one of its values.  Names are compared
without regard to case, blanks, hyphens, low lines and an initial `is`.  A single name may be that
of a property with two values, of a general category or of a script, in this order.
-/

namespace LineShell.Regex

open Text (CodePointSet)

/-- A name without what is passed over when names are compared.  The short name `isc` is kept, since
without its beginning it would be that of a category. -/
def looseName (name : String) : String :=
  let chars := name.toList.map Char.toLower
  let (marked, rest) := match chars with
    | 'i' :: 's' :: rest => (true, rest)
    | _ => (false, chars)
  let kept := rest.filter fun c => c != ' ' && c != '_' && c != '-' && c.toNat < 128
  if marked && kept == ['c'] then "isc" else String.ofList kept

/-- The general categories by their short and long names, each with the labels that it covers. -/
def categoryNames : List (List String × List String) :=
  [(["c", "other"], ["Cc", "Cf", "Cn", "Co", "Cs"]), (["cc", "control", "cntrl"], ["Cc"]),
   (["cf", "format"], ["Cf"]), (["cn", "unassigned"], ["Cn"]), (["co", "privateuse"], ["Co"]),
   (["l", "letter"], Text.Edition.letters), (["lc", "casedletter"], ["Lu", "Ll", "Lt"]),
   (["ll", "lowercaseletter"], ["Ll"]), (["lm", "modifierletter"], ["Lm"]),
   (["lo", "otherletter"], ["Lo"]), (["lt", "titlecaseletter"], ["Lt"]),
   (["lu", "uppercaseletter"], ["Lu"]), (["m", "mark", "combiningmark"], Text.Edition.marks),
   (["mc", "spacingmark"], ["Mc"]), (["me", "enclosingmark"], ["Me"]),
   (["mn", "nonspacingmark"], ["Mn"]), (["n", "number"], Text.Edition.numbers),
   (["nd", "decimalnumber", "digit"], ["Nd"]), (["nl", "letternumber"], ["Nl"]),
   (["no", "othernumber"], ["No"]),
   (["p", "punctuation", "punct"], ["Pc", "Pd", "Ps", "Pe", "Pi", "Pf", "Po"]),
   (["pc", "connectorpunctuation"], ["Pc"]), (["pd", "dashpunctuation"], ["Pd"]),
   (["pe", "closepunctuation"], ["Pe"]), (["pf", "finalpunctuation"], ["Pf"]),
   (["pi", "initialpunctuation"], ["Pi"]), (["po", "otherpunctuation"], ["Po"]),
   (["ps", "openpunctuation"], ["Ps"]), (["s", "symbol"], ["Sm", "Sc", "Sk", "So"]),
   (["sc", "currencysymbol"], ["Sc"]), (["sk", "modifiersymbol"], ["Sk"]),
   (["sm", "mathsymbol"], ["Sm"]), (["so", "othersymbol"], ["So"]),
   (["z", "separator"], ["Zs", "Zl", "Zp"]), (["zl", "lineseparator"], ["Zl"]),
   (["zp", "paragraphseparator"], ["Zp"]), (["zs", "spaceseparator"], ["Zs"])]

/-- The characters of a property, or the fault that there is no such property or value. -/
abbrev PropertyResult := Except FaultKind CodePointSet

/-- The characters of a general category, if the name is one.  The surrogates have a name and no
characters. -/
def category? (name : String) : Option PropertyResult :=
  match name with
  | "any" => some (.ok .all)
  | "ascii" => some (.ok (.ofRange 0 0x7F))
  | "assigned" => some (.ok (Text.patternEdition.inCategories ["Cn"]).complement)
  | "cs" => some (.error .propertyValue)
  | "surrogate" => some (.error .propertyValue)
  | _ =>
    (categoryNames.find? fun (names, _) => names.contains name).map fun (_, labels) =>
      .ok (Text.patternEdition.inCategories labels)

/-- The characters that go with a script, if the name is that of one; `characters` gives them by its
short name.  Two scripts have a name and no characters. -/
def script? (characters : String → CodePointSet) (name : String) : Option PropertyResult :=
  if ["hrkt", "katakanaorhiragana", "unknown", "zzzz"].contains name then
    some (.error .propertyValue)
  else (Text.scriptCode? name).map fun code => .ok (characters code)

/-- The characters of a property that is given by a single name. -/
def namedProperty (name : String) : PropertyResult :=
  let name := looseName name
  let binary := if ["cf", "sc", "lc"].contains name then none else Text.binaryProperty? name
  match binary.map Except.ok |>.or (category? name) |>.or (script? Text.scriptSet name) with
  | some result => result
  | none => .error .propertyName

/-- The characters that an edition knows, given by its number with a point or after a letter. -/
def age? (value : String) : Option CodePointSet :=
  let numbers := Text.editionLabels.map fun label =>
    let digits := label.toList.dropWhile (· == '0')
    let point := digits.length - 1
    (String.ofList (digits.take point ++ '.' :: digits.drop point), String.ofList ('v' :: digits))
  (numbers.findIdx? fun (pointed, lettered) => pointed == value || lettered == value).map
    Text.knownSince

/-- The short names of the classes of the division into clusters. -/
def clusterShortNames : List (String × String) :=
  [("cn", "control"), ("ex", "extend"), ("pp", "prepend"), ("ri", "regionalindicator"),
   ("sm", "spacingmark")]

/-- The short names of the classes of the division into sentences. -/
def sentenceShortNames : List (String × String) :=
  [("at", "aterm"), ("cl", "close"), ("ex", "extend"), ("fo", "format"), ("le", "oletter"),
   ("lo", "lower"), ("nu", "numeric"), ("sc", "scontinue"), ("se", "sep"), ("st", "sterm"),
   ("up", "upper")]

/-- The short names of the classes of the division into words. -/
def wordShortNames : List (String × String) :=
  [("dq", "doublequote"), ("ex", "extendnumlet"), ("fo", "format"), ("hl", "hebrewletter"),
   ("ka", "katakana"), ("le", "aletter"), ("mb", "midnumlet"), ("ml", "midletter"),
   ("mn", "midnum"), ("nl", "newline"), ("nu", "numeric"), ("ri", "regionalindicator"),
   ("sq", "singlequote")]

/-- The names of all properties, also of those whose values cannot be asked for. -/
def propertyNames : String :=
  "age ahex alpha alphabetic asciihexdigit bc bidic bidiclass bidicontrol bidim bidimirrored
   bidimirroringglyph bidipairedbracket bidipairedbrackettype blk block bmg bpb bpt
   canonicalcombiningclass cased casefolding caseignorable ccc ce cf changeswhencasefolded
   changeswhencasemapped changeswhenlowercased changeswhennfkccasefolded changeswhentitlecased
   changeswhenuppercased ci cjkaccountingnumeric cjkcompatibilityvariant cjkiicore cjkirggsource
   cjkirghsource cjkirgjsource cjkirgkpsource cjkirgksource cjkirgmsource cjkirgssource
   cjkirgtsource cjkirguksource cjkirgusource cjkirgvsource cjkothernumeric cjkprimarynumeric
   cjkrsunicode compex compositionexclusion cwcf cwcm cwkcf cwl cwt cwu dash decompositionmapping
   decompositiontype defaultignorablecodepoint dep deprecated di dia diacritic dm dt ea
   eastasianwidth ebase ecomp emod emoji emojicomponent emojimodifier emojimodifierbase
   emojipresentation epres equideo equivalentunifiedideograph expandsonnfc expandsonnfd
   expandsonnfkc expandsonnfkd ext extendedpictographic extender extpict fcnfkc fcnfkcclosure
   fullcompositionexclusion gc gcb generalcategory graphemebase graphemeclusterbreak
   graphemeextend graphemelink grbase grext grlink hangulsyllabletype hex hexdigit hst hyphen idc
   idcompatmathcontinue idcompatmathstart idcontinue ideo ideographic ids idsb idsbinaryoperator
   idst idstart idstrinaryoperator idsu idsunaryoperator incb indicconjunctbreak
   indicpositionalcategory indicsyllabiccategory inpc insc isc jamoshortname jg joinc joincontrol
   joininggroup joiningtype jsn jt kaccountingnumeric kcompatibilityvariant kehcat kehdesc kehhg
   kehifao kehjsesh kehnomirror kehnorotate kiicore kirggsource kirghsource kirgjsource
   kirgkpsource kirgksource kirgmsource kirgssource kirgtsource kirguksource kirgusource
   kirgvsource kothernumeric kprimarynumeric krsunicode lb lc linebreak loe logicalorderexception
   lower lowercase lowercasemapping math mcm modifiercombiningmark na na1 name namealias nchar
   nfcqc nfcquickcheck nfdqc nfdquickcheck nfkccasefold nfkccf nfkcqc nfkcquickcheck nfkcscf
   nfkcsimplecasefold nfkdqc nfkdquickcheck noncharactercodepoint nt numerictype numericvalue nv
   oalpha ocomment odi ogrext oidc oids olower omath otheralphabetic
   otherdefaultignorablecodepoint othergraphemeextend otheridcontinue otheridstart otherlowercase
   othermath otheruppercase oupper patsyn patternsyntax patternwhitespace patws pcm
   prependedconcatenationmark qmark quotationmark radical regionalindicator ri sb sc scf script
   scriptextensions scx sd sentencebreak sentenceterminal sfc simplecasefolding
   simplelowercasemapping simpletitlecasemapping simpleuppercasemapping slc softdotted space stc
   sterm suc tc term terminalpunctuation titlecasemapping uc uideo unicode1name
   unicoderadicalstroke unifiedideograph upper uppercase uppercasemapping urs variationselector
   verticalorientation vo vs wb whitespace wordbreak wspace xidc xidcontinue xids xidstart xonfc
   xonfd xonfkc xonfkd"

/-- The characters for which a property has a value. -/
def valuedProperty (name value : String) : PropertyResult :=
  let name := looseName name
  let value := looseName value
  let found (result : Option CodePointSet) : PropertyResult :=
    match result with
    | some set => .ok set
    | none => .error .propertyValue
  let long (names : List (String × String)) : String := (names.lookup value).getD value
  match name with
  | "gc" => (category? value).getD (.error .propertyValue)
  | "generalcategory" => (category? value).getD (.error .propertyValue)
  | "sc" => (script? Text.scriptSet value).getD (.error .propertyValue)
  | "script" => (script? Text.scriptSet value).getD (.error .propertyValue)
  | "scx" => (script? Text.scriptExtensionSet value).getD (.error .propertyValue)
  | "scriptextensions" => (script? Text.scriptExtensionSet value).getD (.error .propertyValue)
  | "age" => found (age? value)
  | "gcb" => found (Text.clusterBreak? (long clusterShortNames))
  | "graphemeclusterbreak" => found (Text.clusterBreak? (long clusterShortNames))
  | "sb" => found (Text.sentenceBreak? (long sentenceShortNames))
  | "sentencebreak" => found (Text.sentenceBreak? (long sentenceShortNames))
  | "wb" => found (Text.wordBreak? (long wordShortNames))
  | "wordbreak" => found (Text.wordBreak? (long wordShortNames))
  | _ =>
    if (Text.blankWords propertyNames).contains name then .error .propertyValue
    else .error .propertyName

/-- The characters that a query asks for. -/
def PropertyQuery.set : PropertyQuery → PropertyResult
  | .named name => namedProperty name
  | .valued name value => valuedProperty name value

end LineShell.Regex
