import TextSchema.Pattern.Syntax
import TextSchema.Text.Age
import TextSchema.Text.BinaryProperty
import TextSchema.Text.Category
import TextSchema.Text.LetterCase
import TextSchema.Text.Printable
import TextSchema.Text.Script

/-!
# Properties with a name

The sets that `\p` can name: general categories, scripts, binary properties, ages and
the classes of text segmentation. Those that are defined by others are written as they
are defined. Names are compared without regard to case, blanks, low lines and dashes.

Surrogates are no characters, so there is no category of them, and neither is there a
set of the characters without a script or outside all segmentation classes.
-/

set_option autoImplicit false

namespace TextSchema.Pattern

open TextSchema.Text

/-- What is compared of a name. It may start with `is`, which is left out; `isc` is the
name of a property and not that of the category `C`. -/
def normalName (name : List Char) : List Char :=
  let prefixed := (name.take 2).map Char.toLower == ['i', 's']
  let rest := if prefixed then name.drop 2 else name
  let kept := (rest.filter fun char =>
    char.toNat < 0x80 && char != ' ' && char != '_' && char != '-').map Char.toLower
  if prefixed && kept == ['c'] then ['i', 's', 'c'] else kept

/-- A set with its names. -/
structure NamedSet where
  names : List String
  set : CharSet

namespace NamedSet

def find? (sets : List NamedSet) (name : List Char) : Option CharSet :=
  let wanted := normalName name
  (sets.find? fun entry => entry.names.any fun other => normalName other.toList == wanted).map
    NamedSet.set

/-! ## General categories -/

def casedLetterTables : List RangeTable :=
  [uppercaseLetterRanges, lowercaseLetterRanges, titlecaseLetterRanges]

def letterTables : List RangeTable :=
  casedLetterTables ++ [modifierLetterRanges, otherLetterRanges]

def markTables : List RangeTable :=
  [nonspacingMarkRanges, spacingMarkRanges, enclosingMarkRanges]

def numberTables : List RangeTable :=
  [digitRanges, letterNumberRanges, otherNumberRanges]

def punctuationTables : List RangeTable :=
  [connectorRanges, dashPunctuationRanges, openPunctuationRanges, closePunctuationRanges,
    initialPunctuationRanges, finalPunctuationRanges, otherPunctuationRanges]

def symbolTables : List RangeTable :=
  [mathSymbolRanges, currencySymbolRanges, modifierSymbolRanges, otherSymbolRanges]

def separatorTables : List RangeTable :=
  [spaceSeparatorRanges, lineSeparatorRanges, paragraphSeparatorRanges]

/-- All categories but those of controls, of private use and of what is unassigned. -/
def textTables : List RangeTable :=
  letterTables ++ markTables ++ numberTables ++ punctuationTables ++ symbolTables ++
    separatorTables

def assignedTables : List RangeTable :=
  textTables ++ [controlRanges, formatRanges, privateUseRanges]

def unassigned : CharSet := .compl (.tables assignedTables)

def categories : List NamedSet := [
  ⟨["L", "Letter"], .tables letterTables⟩,
  ⟨["LC", "Cased_Letter"], .tables casedLetterTables⟩,
  ⟨["Lu", "Uppercase_Letter"], .table uppercaseLetterRanges⟩,
  ⟨["Ll", "Lowercase_Letter"], .table lowercaseLetterRanges⟩,
  ⟨["Lt", "Titlecase_Letter"], .table titlecaseLetterRanges⟩,
  ⟨["Lm", "Modifier_Letter"], .table modifierLetterRanges⟩,
  ⟨["Lo", "Other_Letter"], .table otherLetterRanges⟩,
  ⟨["M", "Mark", "Combining_Mark"], .tables markTables⟩,
  ⟨["Mn", "Nonspacing_Mark"], .table nonspacingMarkRanges⟩,
  ⟨["Mc", "Spacing_Mark"], .table spacingMarkRanges⟩,
  ⟨["Me", "Enclosing_Mark"], .table enclosingMarkRanges⟩,
  ⟨["N", "Number"], .tables numberTables⟩,
  ⟨["Nd", "Decimal_Number", "digit"], .table digitRanges⟩,
  ⟨["Nl", "Letter_Number"], .table letterNumberRanges⟩,
  ⟨["No", "Other_Number"], .table otherNumberRanges⟩,
  ⟨["P", "Punctuation", "punct"], .tables punctuationTables⟩,
  ⟨["Pc", "Connector_Punctuation"], .table connectorRanges⟩,
  ⟨["Pd", "Dash_Punctuation"], .table dashPunctuationRanges⟩,
  ⟨["Ps", "Open_Punctuation"], .table openPunctuationRanges⟩,
  ⟨["Pe", "Close_Punctuation"], .table closePunctuationRanges⟩,
  ⟨["Pi", "Initial_Punctuation"], .table initialPunctuationRanges⟩,
  ⟨["Pf", "Final_Punctuation"], .table finalPunctuationRanges⟩,
  ⟨["Po", "Other_Punctuation"], .table otherPunctuationRanges⟩,
  ⟨["S", "Symbol"], .tables symbolTables⟩,
  ⟨["Sm", "Math_Symbol"], .table mathSymbolRanges⟩,
  ⟨["Sc", "Currency_Symbol"], .table currencySymbolRanges⟩,
  ⟨["Sk", "Modifier_Symbol"], .table modifierSymbolRanges⟩,
  ⟨["So", "Other_Symbol"], .table otherSymbolRanges⟩,
  ⟨["Z", "Separator"], .tables separatorTables⟩,
  ⟨["Zs", "Space_Separator"], .table spaceSeparatorRanges⟩,
  ⟨["Zl", "Line_Separator"], .table lineSeparatorRanges⟩,
  ⟨["Zp", "Paragraph_Separator"], .table paragraphSeparatorRanges⟩,
  ⟨["C", "Other"], .compl (.tables textTables)⟩,
  ⟨["Cc", "Control", "cntrl"], .table controlRanges⟩,
  ⟨["Cf", "Format"], .table formatRanges⟩,
  ⟨["Co", "Private_Use"], .table privateUseRanges⟩,
  ⟨["Cn", "Unassigned"], unassigned⟩,
  ⟨["Assigned"], .tables assignedTables⟩,
  ⟨["ASCII"], .ascii⟩,
  ⟨["Any"], .compl .empty⟩]

/-! ## Scripts and ages -/

def scriptSets : List NamedSet :=
  scripts.map fun script => ⟨script.names, .table script.ranges⟩

/-- A script with the characters that are also written in it. Of the characters without
a script of their own, it has those that are written in no certain one. -/
def extendedScript (script : Script) : CharSet :=
  if script.names.contains "Common" || script.names.contains "Inherited" then
    .diff (.table script.ranges) (.table (scriptExtensions.map Prod.fst))
  else
    let further := scriptExtensions.filter fun entry => entry.2.any script.names.contains
    .union (.table script.ranges) (.table (further.map Prod.fst))

def extendedScriptSets : List NamedSet :=
  scripts.map fun script => ⟨script.names, extendedScript script⟩

/-- The versions from one on. Each has what it and the ones before it assigned. -/
def ageSetsFrom (before : List RangeTable) : List (String × RangeTable) → List NamedSet
  | [] => []
  | (version, ranges) :: rest =>
      let assigned := before ++ [ranges]
      ⟨[version, "V" ++ String.ofList (version.toList.filter (· != '.'))], .tables assigned⟩ ::
        ageSetsFrom assigned rest

def ageSets : List NamedSet := ageSetsFrom [] versions

/-! ## Binary properties -/

def uppercase : CharSet := .tables [uppercaseLetterRanges, otherUppercaseRanges]

def lowercase : CharSet := .tables [lowercaseLetterRanges, otherLowercaseRanges]

def capitals : CharSet := .union uppercase (.table titlecaseLetterRanges)

/-- Georgian small letters have capitals, but keep their form in titles. -/
def georgianSmallLetters : CharSet := .table [(0x10D0, 0x10FA), (0x10FD, 0x10FF)]

def changesWhenLowercased : CharSet := .inter (.table caseMappedRanges) capitals

/-- The capital digraphs have a form of their own in titles. -/
def changesWhenTitlecased : CharSet :=
  .union (.diff (.table caseMappedRanges) (.union capitals georgianSmallLetters))
    (.ofList ['\u01C4', '\u01C7', '\u01CA', '\u01F1'])

/-- Cherokee stands apart: its small letters fold to the capitals. -/
def changesWhenFolded : CharSet :=
  .union (.diff changesWhenLowercased (.range '\u13A0' '\u13F5')) (.table foldedSmallRanges)

def ignorable : CharSet :=
  .diff (.tables [formatRanges, variationSelectorRanges, otherIgnorableRanges])
    (.tables [prependedMarkRanges, [(0xFFF9, 0xFFFB), (0x13430, 0x1343F)]])

def graphemeExtend : CharSet := .table extenderRanges

def graphemeBase : CharSet :=
  .diff (.tables textTables)
    (.tables [lineSeparatorRanges, paragraphSeparatorRanges, extenderRanges])

def idStart : CharSet :=
  .diff (.tables (letterTables ++ [letterNumberRanges, otherStartRanges]))
    (.tables [patternSyntaxRanges, patternBlankRanges])

def idContinue : CharSet :=
  .union idStart
    (.tables [nonspacingMarkRanges, spacingMarkRanges, digitRanges, connectorRanges,
      otherContinueRanges])

/-- Characters that a compatible form replaces by ones that continue no identifier. -/
def brokenContinueRanges : RangeTable := [
  (0x037A, 0x037A), (0x309B, 0x309C), (0xFC5E, 0xFC63), (0xFDFA, 0xFDFB), (0xFE70, 0xFE70),
  (0xFE72, 0xFE72), (0xFE74, 0xFE74), (0xFE76, 0xFE76), (0xFE78, 0xFE78), (0xFE7A, 0xFE7A),
  (0xFE7C, 0xFE7C), (0xFE7E, 0xFE7E)]

/-- Characters that a compatible form replaces by ones that start no identifier. -/
def brokenStartRanges : RangeTable :=
  [(0x0E33, 0x0E33), (0x0EB3, 0x0EB3), (0xFF9E, 0xFF9F)]

def binaryProperties : List NamedSet := [
  ⟨["AHex", "ASCII_Hex_Digit"], .table asciiHexDigitRanges⟩,
  ⟨["Alpha", "Alphabetic"], .table alphabeticRanges⟩,
  ⟨["Bidi_C", "Bidi_Control"], .table bidiControlRanges⟩,
  ⟨["CI", "Case_Ignorable"], .table caseIgnorableRanges⟩,
  ⟨["Cased"], .table casedRanges⟩,
  ⟨["CWCF", "Changes_When_Casefolded"], changesWhenFolded⟩,
  ⟨["CWCM", "Changes_When_Casemapped"], .table caseMappedRanges⟩,
  ⟨["CWL", "Changes_When_Lowercased"], changesWhenLowercased⟩,
  ⟨["CWT", "Changes_When_Titlecased"], changesWhenTitlecased⟩,
  ⟨["CWU", "Changes_When_Uppercased"], .diff (.table caseMappedRanges) uppercase⟩,
  ⟨["Dash"], .table dashRanges⟩,
  ⟨["DI", "Default_Ignorable_Code_Point"], ignorable⟩,
  ⟨["Dep", "Deprecated"], .table deprecatedRanges⟩,
  ⟨["Dia", "Diacritic"], .table diacriticRanges⟩,
  ⟨["Emoji"], .table emojiRanges⟩,
  ⟨["EComp", "Emoji_Component"], .table emojiComponentRanges⟩,
  ⟨["EMod", "Emoji_Modifier"], .table emojiModifierRanges⟩,
  ⟨["EBase", "Emoji_Modifier_Base"], .table emojiModifierBaseRanges⟩,
  ⟨["EPres", "Emoji_Presentation"], .table emojiPresentationRanges⟩,
  ⟨["ExtPict", "Extended_Pictographic"], .table extendedPictographRanges⟩,
  ⟨["Ext", "Extender"], .table lengtheningRanges⟩,
  ⟨["Gr_Base", "Grapheme_Base"], graphemeBase⟩,
  ⟨["Gr_Ext", "Grapheme_Extend"], graphemeExtend⟩,
  ⟨["Gr_Link", "Grapheme_Link"], .table graphemeLinkRanges⟩,
  ⟨["Hex", "Hex_Digit"], .table hexDigitRanges⟩,
  ⟨["Hyphen"], .table hyphenRanges⟩,
  ⟨["IDSB", "IDS_Binary_Operator"], .table binaryDescriptionRanges⟩,
  ⟨["IDST", "IDS_Trinary_Operator"], .table ternaryDescriptionRanges⟩,
  ⟨["IDSU", "IDS_Unary_Operator"], .table unaryDescriptionRanges⟩,
  ⟨["ID_Compat_Math_Continue"], .table compatMathContinueRanges⟩,
  ⟨["ID_Compat_Math_Start"], .table compatMathStartRanges⟩,
  ⟨["IDC", "ID_Continue"], idContinue⟩,
  ⟨["IDS", "ID_Start"], idStart⟩,
  ⟨["Ideo", "Ideographic"], .table ideographRanges⟩,
  ⟨["Join_C", "Join_Control"], .table joinControlRanges⟩,
  ⟨["LOE", "Logical_Order_Exception"], .table logicalOrderExceptionRanges⟩,
  ⟨["Lower", "Lowercase"], lowercase⟩,
  ⟨["Math"], .tables [mathSymbolRanges, otherMathRanges]⟩,
  ⟨["MCM", "Modifier_Combining_Mark"], .table modifierCombiningMarkRanges⟩,
  ⟨["NChar", "Noncharacter_Code_Point"], .table noncharacterRanges⟩,
  ⟨["OAlpha", "Other_Alphabetic"],
    .diff (.table alphabeticRanges) (.tables (letterTables ++ [letterNumberRanges]))⟩,
  ⟨["ODI", "Other_Default_Ignorable_Code_Point"], .table otherIgnorableRanges⟩,
  ⟨["OGr_Ext", "Other_Grapheme_Extend"],
    .diff graphemeExtend (.tables [nonspacingMarkRanges, enclosingMarkRanges])⟩,
  ⟨["OIDC", "Other_ID_Continue"], .table otherContinueRanges⟩,
  ⟨["OIDS", "Other_ID_Start"], .table otherStartRanges⟩,
  ⟨["OLower", "Other_Lowercase"], .table otherLowercaseRanges⟩,
  ⟨["OMath", "Other_Math"], .table otherMathRanges⟩,
  ⟨["OUpper", "Other_Uppercase"], .table otherUppercaseRanges⟩,
  ⟨["Pat_Syn", "Pattern_Syntax"], .table patternSyntaxRanges⟩,
  ⟨["Pat_WS", "Pattern_White_Space"], .table patternBlankRanges⟩,
  ⟨["PCM", "Prepended_Concatenation_Mark"], .table prependedMarkRanges⟩,
  ⟨["QMark", "Quotation_Mark"], .table quotationMarkRanges⟩,
  ⟨["Radical"], .table radicalRanges⟩,
  ⟨["RI", "Regional_Indicator"], .table regionalIndicatorRanges⟩,
  ⟨["STerm", "Sentence_Terminal"], .table sentenceEndRanges⟩,
  ⟨["SD", "Soft_Dotted"], .table softDottedRanges⟩,
  ⟨["Term", "Terminal_Punctuation"], .table terminalPunctuationRanges⟩,
  ⟨["UIdeo", "Unified_Ideograph"], .table unifiedIdeographRanges⟩,
  ⟨["Upper", "Uppercase"], uppercase⟩,
  ⟨["VS", "Variation_Selector"], .table variationSelectorRanges⟩,
  ⟨["WSpace", "White_Space", "space"], .table blankRanges⟩,
  ⟨["XIDC", "XID_Continue"], .diff idContinue (.table brokenContinueRanges)⟩,
  ⟨["XIDS", "XID_Start"], .diff idStart (.tables [brokenContinueRanges, brokenStartRanges])⟩]

/-! ## Text segmentation -/

/-- A joiner has a class of its own. -/
def joiner : CharSet := .single '\u200D'

def carriageReturn : NamedSet := ⟨["CR"], .single '\r'⟩

def lineFeed : NamedSet := ⟨["LF"], .single '\n'⟩

def regionalIndicators : NamedSet := ⟨["RI", "Regional_Indicator"], .table regionalIndicatorRanges⟩

/-- What extends the character before it in a grapheme. -/
def graphemeExtension : CharSet := .tables [extenderRanges, emojiModifierRanges]

def graphemePrepend : CharSet :=
  .tables [prependedMarkRanges, [
    (0x0D4E, 0x0D4E), (0x111C2, 0x111C3), (0x113D1, 0x113D1), (0x1193F, 0x1193F),
    (0x11941, 0x11941), (0x11A84, 0x11A89), (0x11D46, 0x11D46), (0x11F02, 0x11F02)]]

def graphemeControl : CharSet :=
  .diff
    (.union (.tables [lineSeparatorRanges, paragraphSeparatorRanges, controlRanges, formatRanges])
      (.inter ignorable unassigned))
    (.unionAll [.ofList ['\r', '\n', '\u200C', '\u200D'], .table prependedMarkRanges,
      graphemeExtension])

/-- Spacing marks that start a grapheme of their own. -/
def freeMarkRanges : RangeTable := [
  (0x102B, 0x102C), (0x1038, 0x1038), (0x1062, 0x1064), (0x1067, 0x106D), (0x1083, 0x1083),
  (0x1087, 0x108C), (0x108F, 0x108F), (0x109A, 0x109C), (0x1A61, 0x1A61), (0x1A63, 0x1A64),
  (0xAA7B, 0xAA7B), (0xAA7D, 0xAA7D), (0x11720, 0x11721)]

def graphemeSpacing : CharSet :=
  .union
    (.diff (.table spacingMarkRanges) (.union graphemeExtension (.table freeMarkRanges)))
    (.ofList ['\u0E33', '\u0EB3'])

/-- Hangul syllables without a final consonant: one in each row of 28. -/
def openSyllableRanges : RangeTable :=
  (List.range 399).map fun row => (0xAC00 + 28 * row, 0xAC00 + 28 * row)

def graphemeBreaks : List NamedSet := [
  carriageReturn,
  lineFeed,
  regionalIndicators,
  ⟨["CN", "Control"], graphemeControl⟩,
  ⟨["EX", "Extend"], graphemeExtension⟩,
  ⟨["L"], .table [(0x1100, 0x115F), (0xA960, 0xA97C)]⟩,
  ⟨["LV"], .table openSyllableRanges⟩,
  ⟨["LVT"], .diff (.table [(0xAC00, 0xD7A3)]) (.table openSyllableRanges)⟩,
  ⟨["PP", "Prepend"], graphemePrepend⟩,
  ⟨["SM", "SpacingMark"], graphemeSpacing⟩,
  ⟨["T"], .table [(0x11A8, 0x11FF), (0xD7CB, 0xD7FB)]⟩,
  ⟨["V"], .table [(0x1160, 0x11A7), (0xD7B0, 0xD7C6), (0x16D63, 0x16D63), (0x16D67, 0x16D6A)]⟩,
  ⟨["ZWJ"], joiner⟩]

/-- Digits and the marks that are written with numbers. -/
def numericRanges : List RangeTable :=
  [digitRanges, [
    (0x0600, 0x0605), (0x066B, 0x066B), (0x06DD, 0x06DD), (0x0890, 0x0891), (0x08E2, 0x08E2),
    (0x19DA, 0x19DA), (0x110BD, 0x110BD), (0x110CD, 0x110CD)]]

def wordExtension : CharSet := .tables [extenderRanges, spacingMarkRanges, emojiModifierRanges]

def scriptRanges (name : String) : RangeTable :=
  ((scripts.find? (·.names.contains name)).map Script.ranges).getD []

def katakana : CharSet :=
  .tables [scriptRanges "Katakana",
    [(0x3031, 0x3035), (0x309B, 0x309C), (0x30A0, 0x30A0), (0x30FC, 0x30FC), (0xFF70, 0xFF70)]]

def hebrewLetters : CharSet :=
  .inter (.table (scriptRanges "Hebrew")) (.table otherLetterRanges)

/-- Characters that count as letters of a word without being alphabetic. -/
def wordSignRanges : RangeTable := [
  (0x00B8, 0x00B8), (0x02C2, 0x02C5), (0x02D2, 0x02D7), (0x02DE, 0x02DF), (0x02E5, 0x02EB),
  (0x02ED, 0x02ED), (0x02EF, 0x02FF), (0x055A, 0x055C), (0x055E, 0x055E), (0x058A, 0x058A),
  (0x05F3, 0x05F3), (0x070F, 0x070F), (0xA708, 0xA716), (0xA720, 0xA721), (0xA789, 0xA78A),
  (0xAB5B, 0xAB5B)]

/-- Letters of the scripts of South East Asia, which are written without spaces. -/
def unspacedRanges : RangeTable := [
  (0x0E01, 0x0E3A), (0x0E40, 0x0E4E), (0x0E81, 0x0E82), (0x0E84, 0x0E84), (0x0E86, 0x0E8A),
  (0x0E8C, 0x0EA3), (0x0EA5, 0x0EA5), (0x0EA7, 0x0EBD), (0x0EC0, 0x0EC4), (0x0EC6, 0x0EC6),
  (0x0EC8, 0x0ECE), (0x0EDC, 0x0EDF), (0x1000, 0x103F), (0x1050, 0x108F), (0x109A, 0x109F),
  (0x1780, 0x17D3), (0x17D7, 0x17D7), (0x17DC, 0x17DD), (0x1950, 0x196D), (0x1970, 0x1974),
  (0x1980, 0x19AB), (0x19B0, 0x19C9), (0x19DA, 0x19DA), (0x19DE, 0x19DF), (0x1A20, 0x1A5E),
  (0x1A60, 0x1A7C), (0x1AA0, 0x1AAD), (0xA9E0, 0xA9EF), (0xA9FA, 0xA9FE), (0xAA60, 0xAAC2),
  (0xAADB, 0xAADF), (0x11700, 0x1171A), (0x1171D, 0x1172B), (0x1173A, 0x1173B),
  (0x1173F, 0x11746)]

def wordLetters : CharSet :=
  .diff (.tables [alphabeticRanges, wordSignRanges])
    (.unionAll [.tables [ideographRanges, unspacedRanges, scriptRanges "Hiragana"], katakana,
      hebrewLetters, wordExtension])

def wordFormat : CharSet :=
  .diff (.table formatRanges)
    (.unionAll [.ofList ['\u200B', '\u200C', '\u200D'], .table prependedMarkRanges, wordExtension])

def wordBreaks : List NamedSet := [
  carriageReturn,
  lineFeed,
  regionalIndicators,
  ⟨["LE", "ALetter"], wordLetters⟩,
  ⟨["DQ", "Double_Quote"], .single '\x22'⟩,
  ⟨["Extend"], wordExtension⟩,
  ⟨["EX", "ExtendNumLet"], .union (.table connectorRanges) (.single '\u202F')⟩,
  ⟨["FO", "Format"], wordFormat⟩,
  ⟨["HL", "Hebrew_Letter"], hebrewLetters⟩,
  ⟨["KA", "Katakana"], katakana⟩,
  ⟨["ML", "MidLetter"],
    .ofList [':', '\u00B7', '\u0387', '\u055F', '\u05F4', '\u2027', '\uFE13', '\uFE55', '\uFF1A']⟩,
  ⟨["MN", "MidNum"],
    .ofList [',', ';', '\u037E', '\u0589', '\u060C', '\u060D', '\u066C', '\u07F8', '\u2044',
      '\uFE50', '\uFE54', '\uFF0C', '\uFF1B']⟩,
  ⟨["MB", "MidNumLet"],
    .ofList ['.', '\u2018', '\u2019', '\u2024', '\uFE52', '\uFF07', '\uFF0E']⟩,
  ⟨["NL", "Newline"], .ofList ['\u000B', '\u000C', '\u0085', '\u2028', '\u2029']⟩,
  ⟨["NU", "Numeric"], .tables numericRanges⟩,
  ⟨["SQ", "Single_Quote"], .single '\x27'⟩,
  ⟨["WSegSpace"],
    .diff (.table spaceSeparatorRanges) (.ofList ['\u00A0', '\u2007', '\u202F'])⟩,
  ⟨["ZWJ"], joiner⟩]

def sentenceExtension : CharSet := .union (.tables [extenderRanges, spacingMarkRanges]) joiner

def sentenceFormat : CharSet :=
  .diff (.table formatRanges)
    (.unionAll [.ofList ['\u200C', '\u200D'], .tables numericRanges, sentenceExtension])

def sentenceLower : CharSet :=
  .diff lowercase (.union graphemeExtend georgianSmallLetters)

/-- The capitals of Georgian are no beginning of a sentence. -/
def sentenceUpper : CharSet :=
  .diff capitals (.table [(0x1C90, 0x1CBA), (0x1CBD, 0x1CBF)])

def sentenceLetters : CharSet :=
  .diff (.union (.table alphabeticRanges) (.single '\u05F3'))
    (.unionAll [sentenceLower, sentenceUpper, sentenceExtension])

def sentencePoints : CharSet := .ofList ['.', '\u2024', '\uFE52', '\uFF0E']

/-- Brackets and quotation marks, also those that are neither by category. -/
def sentenceClose : CharSet :=
  .tables [openPunctuationRanges, closePunctuationRanges, initialPunctuationRanges,
    finalPunctuationRanges, [
    (0x0022, 0x0022), (0x0027, 0x0027), (0x275B, 0x2760), (0x2E00, 0x2E01), (0x2E06, 0x2E08),
    (0x2E0B, 0x2E0B), (0x1F676, 0x1F678)]]

def sentenceSeparators : CharSet := .ofList ['\u0085', '\u2028', '\u2029']

def sentenceBreaks : List NamedSet := [
  carriageReturn,
  lineFeed,
  ⟨["AT", "ATerm"], sentencePoints⟩,
  ⟨["CL", "Close"], sentenceClose⟩,
  ⟨["EX", "Extend"], sentenceExtension⟩,
  ⟨["FO", "Format"], sentenceFormat⟩,
  ⟨["LO", "Lower"], sentenceLower⟩,
  ⟨["NU", "Numeric"], .union (.tables numericRanges) (.single '\u066C')⟩,
  ⟨["LE", "OLetter"], sentenceLetters⟩,
  ⟨["SC", "SContinue"],
    .ofList [',', '-', ':', ';', '\u037E', '\u055D', '\u060C', '\u060D', '\u07F8', '\u1802',
      '\u1808', '\u2013', '\u2014', '\u3001', '\uFE10', '\uFE11', '\uFE13', '\uFE14', '\uFE31',
      '\uFE32', '\uFE50', '\uFE51', '\uFE54', '\uFE55', '\uFE58', '\uFE63', '\uFF0C', '\uFF0D',
      '\uFF1A', '\uFF1B', '\uFF64']⟩,
  ⟨["ST", "STerm"], .diff (.table sentenceEndRanges) sentencePoints⟩,
  ⟨["SE", "Sep"], sentenceSeparators⟩,
  ⟨["SP", "Sp"],
    .diff (.table blankRanges) (.union sentenceSeparators (.ofList ['\r', '\n']))⟩,
  ⟨["UP", "Upper"], sentenceUpper⟩]

/-- The properties that have values, with these. -/
def valuedProperties : List (List String × List NamedSet) := [
  (["gc", "General_Category"], categories),
  (["sc", "Script"], scriptSets),
  (["scx", "Script_Extensions"], extendedScriptSets),
  (["age", "Age"], ageSets),
  (["GCB", "Grapheme_Cluster_Break"], graphemeBreaks),
  (["WB", "Word_Break"], wordBreaks),
  (["SB", "Sentence_Break"], sentenceBreaks)]

end NamedSet

open NamedSet in
/-- The set that is asked for. A name alone can be that of a binary property, of a
category or of a script, in this order. -/
def PropertyQuery.set? : PropertyQuery → Option CharSet
  | .alone name =>
      find? (binaryProperties ++ categories ++ scriptSets) name
  | .valued property value => do
      let wanted := normalName property
      let (_, sets) ← valuedProperties.find? fun entry =>
        entry.1.any fun other => normalName other.toList == wanted
      find? sets value

end TextSchema.Pattern
