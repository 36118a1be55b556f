namespace IntentPolicy

/-!
# Composed letters

A letter and a mark behind it can have one character for both.  The syllables of Hangul
are composed by arithmetic on their parts, all other letters are listed.
-/

/-- Letters, and at the same places what they become with a mark behind them. -/
structure MarkedLetters where
  mark : Nat
  letters : String
  composed : String
  deriving Repr, DecidableEq

/-- The letters that have one character with a mark. -/
def markedLetters : List MarkedLetters :=
  [ ⟨0x0300, "aeiouünеиēōwâăêôơưyἀἁἐἑἠἡἰἱὀὁὐὑὠὡαεηιο", "àèìòùǜǹѐѝḕṑẁầằềồờừỳἂἃἒἓἢἣἲἳὂὃὒὓὢὣὰὲὴὶὸ"⟩,
    ⟨0x0300, "υωϊϋ", "ὺὼῒῢ"⟩,
    ⟨0x0301, "aeiouyclnrszügåæøϊαεηιϋουωгкçēïkmõōpũw", "áéíóúýćĺńŕśźǘǵǻǽǿΐάέήίΰόύώѓќḉḗḯḱḿṍṓṕṹẃ"⟩,
    ⟨0x0301, "âăêôơưἀἁἐἑἠἡἰἱὀὁὐὑὠὡ", "ấắếốớứἄἅἔἕἤἥἴἵὄὅὔὕὤὥ"⟩,
    ⟨0x0302, "aeioucghjswyzạẹọ", "âêîôûĉĝĥĵŝŵŷẑậệộ"⟩,
    ⟨0x0303, "anoiuvâăeêôơưy", "ãñõĩũṽẫẵẽễỗỡữỹ"⟩,
    ⟨0x0304, "aeiouüäȧæǫöõȯyиуgḷṛαιυ", "āēīōūǖǟǡǣǭȫȭȱȳӣӯḡḹṝᾱῑῡ"⟩,
    ⟨0x0306, "aegiouиужаеȩạαιυ", "ăĕğĭŏŭйўӂӑӗḝặᾰῐῠ"⟩,
    ⟨0x0307, "cegzaobdfhmnprsśšṣtwxy𐗒𐗚", "ċėġżȧȯḃḋḟḣṁṅṗṙṡṥṧṩṫẇẋẏ𐗉𐗤"⟩,
    ⟨0x0308, "aeiouyιυеіаәжзиоөэучыhõūwxt", "äëïöüÿϊϋёїӓӛӝӟӥӧӫӭӱӵӹḧṏṻẅẍẗ"⟩,
    ⟨0x0309, "aâăeêioôơuưy", "ảẩẳẻểỉỏổởủửỷ"⟩, ⟨0x030A, "auwy", "åůẘẙ"⟩, ⟨0x030B, "ouу", "őűӳ"⟩,
    ⟨0x030C, "cdelnrstzaiouügkʒjh", "čďěľňřšťžǎǐǒǔǚǧǩǯǰȟ"⟩, ⟨0x030F, "aeioruѵ", "ȁȅȉȍȑȕѷ"⟩,
    ⟨0x0311, "aeioru", "ȃȇȋȏȓȗ"⟩, ⟨0x0313, "αεηιουωρ", "ἀἐἠἰὀὐὠῤ"⟩,
    ⟨0x0314, "αεηιουωρ", "ἁἑἡἱὁὑὡῥ"⟩, ⟨0x031B, "ou", "ơư"⟩,
    ⟨0x0323, "bdhklmnrstvwzaeioơuưy", "ḅḍḥḳḷṃṇṛṣṭṿẉẓạẹịọợụựỵ"⟩, ⟨0x0324, "u", "ṳ"⟩,
    ⟨0x0325, "a", "ḁ"⟩, ⟨0x0326, "st", "șț"⟩, ⟨0x0327, "cgklnrstedh", "çģķļņŗşţȩḑḩ"⟩,
    ⟨0x0328, "aeiuo", "ąęįųǫ"⟩, ⟨0x032D, "delntu", "ḓḙḽṋṱṷ"⟩, ⟨0x032E, "h", "ḫ"⟩,
    ⟨0x0330, "eiu", "ḛḭṵ"⟩, ⟨0x0331, "bdklnrtzh", "ḇḏḵḻṉṟṯẕẖ"⟩,
    ⟨0x0338, "←→↔⇐⇔⇒∃∈∋∣∥∼≃≅≈=≡≍<>≤≥≲≳≶≷≺≻⊂⊃⊆⊇⊢⊨⊩⊫≼≽", "↚↛↮⇍⇎⇏∄∉∌∤∦≁≄≇≉≠≢≭≮≯≰≱≴≵≸≹⊀⊁⊄⊅⊈⊉⊬⊭⊮⊯⋠⋡"⟩,
    ⟨0x0338, "⊑⊒⊲⊳⊴⊵", "⋢⋣⋪⋫⋬⋭"⟩, ⟨0x0342, "ἀἁἠἡἰἱὐὑὠὡαηιϊυϋω", "ἆἇἦἧἶἷὖὗὦὧᾶῆῖῗῦῧῶ"⟩,
    ⟨0x0653, "\u0627", "\u0622"⟩,
    ⟨0x0654, "\u0627\u0648\u064a\u06d5\u06c1\u06d2", "\u0623\u0624\u0626\u06c0\u06c2\u06d3"⟩,
    ⟨0x0655, "\u0627", "\u0625"⟩, ⟨0x093C, "नरळ", "ऩऱऴ"⟩, ⟨0x09BE, "\u09c7", "\u09cb"⟩,
    ⟨0x09D7, "\u09c7", "\u09cc"⟩, ⟨0x0B3E, "\u0b47", "\u0b4b"⟩, ⟨0x0B56, "\u0b47", "\u0b48"⟩,
    ⟨0x0B57, "\u0b47", "\u0b4c"⟩, ⟨0x0BBE, "\u0bc6\u0bc7", "\u0bca\u0bcb"⟩,
    ⟨0x0BD7, "ஒ\u0bc6", "ஔ\u0bcc"⟩, ⟨0x0C56, "\u0c46", "\u0c48"⟩, ⟨0x0CC2, "\u0cc6", "\u0cca"⟩,
    ⟨0x0CD5, "\u0cbf\u0cc6\u0cca", "\u0cc0\u0cc7\u0ccb"⟩, ⟨0x0CD6, "\u0cc6", "\u0cc8"⟩,
    ⟨0x0D3E, "\u0d46\u0d47", "\u0d4a\u0d4b"⟩, ⟨0x0D57, "\u0d46", "\u0d4c"⟩,
    ⟨0x0DCA, "\u0dd9\u0ddc", "\u0dda\u0ddd"⟩, ⟨0x0DCF, "\u0dd9", "\u0ddc"⟩,
    ⟨0x0DDF, "\u0dd9", "\u0dde"⟩, ⟨0x102E, "ဥ", "ဦ"⟩,
    ⟨0x1B35, "ᬅᬇᬉᬋᬍᬑ\u1b3a\u1b3c\u1b3e\u1b3f\u1b42", "ᬆᬈᬊᬌᬎᬒ\u1b3b\u1b3d\u1b40\u1b41\u1b43"⟩,
    ⟨0x3099, "かきくけこさしすせそたちつてとはひふへほうゝカキクケコサシスセソタチツテトハ", "がぎぐげござじずぜぞだぢづでどばびぶべぼゔゞガギグゲゴザジズゼゾダヂヅデドバ"⟩,
    ⟨0x3099, "ヒフヘホウワヰヱヲヽ", "ビブベボヴヷヸヹヺヾ"⟩, ⟨0x309A, "はひふへほハヒフヘホ", "ぱぴぷぺぽパピプペポ"⟩,
    ⟨0x110BA, "𑂙𑂛𑂥", "𑂚𑂜𑂫"⟩, ⟨0x11127, "𑄱𑄲", "𑄮𑄯"⟩, ⟨0x1133E, "𑍇", "𑍋"⟩, ⟨0x11357, "𑍇", "𑍌"⟩,
    ⟨0x113B8, "𑏂", "𑏇"⟩, ⟨0x113BB, "𑎄", "𑎅"⟩, ⟨0x113C2, "𑎎", "𑎎𑏅"⟩, ⟨0x113C9, "𑎂𑎐𑏂", "𑎃𑎑𑏈"⟩,
    ⟨0x114B0, "𑒹", "𑒼"⟩, ⟨0x114BA, "𑒹", "𑒻"⟩, ⟨0x114BD, "𑒹", "𑒾"⟩, ⟨0x115AF, "𑖸𑖹", "𑖺𑖻"⟩,
    ⟨0x11930, "𑤵", "𑤸"⟩, ⟨0x1611E, "𖄞", "𖄡"⟩, ⟨0x1611F, "𖄢𖄡𖄢", "𖄣𖄤𖄦𖄧"⟩, ⟨0x16120, "𖄡𖄞", "𖄥𖄨"⟩,
    ⟨0x16129, "𖄞", "𖄢"⟩, ⟨0x16D67, "𖵧𖵣𖵩", "𖵨𖵩𖵪"⟩ ]

namespace Hangul

/-- The first of the consonants that open a syllable. -/
def firstLead : Nat := 0x1100

/-- The first vowel. -/
def firstVowel : Nat := 0x1161

/-- The place before the first of the consonants that close a syllable. -/
def noTail : Nat := 0x11A7

/-- The first syllable. -/
def firstSyllable : Nat := 0xAC00

/-- How many consonants open a syllable. -/
def leadCount : Nat := 19

/-- How many vowels there are. -/
def vowelCount : Nat := 21

/-- In how many ways a syllable can end, without a consonant among them. -/
def tailCount : Nat := 28

/-- How many syllables there are. -/
def syllableCount : Nat := leadCount * vowelCount * tailCount

/-- The place of a syllable among all of them. -/
def syllableIndex? (character : Char) : Option Nat :=
  let index := character.toNat - firstSyllable
  if firstSyllable ≤ character.toNat ∧ index < syllableCount then some index else none

/-- The parts of a syllable. -/
def parts? (character : Char) : Option (List Char) :=
  (syllableIndex? character).map fun index =>
    let lead := Char.ofNat (firstLead + index / (vowelCount * tailCount))
    let vowel := Char.ofNat (firstVowel + index / tailCount % vowelCount)
    let tail := index % tailCount
    lead :: vowel :: if tail = 0 then [] else [Char.ofNat (noTail + tail)]

/-- The syllable of an opening consonant and a vowel. -/
def openSyllable? (front back : Char) : Option Char :=
  let lead := front.toNat - firstLead
  let vowel := back.toNat - firstVowel
  if firstLead ≤ front.toNat ∧ lead < leadCount ∧ firstVowel ≤ back.toNat ∧ vowel < vowelCount then
    some (Char.ofNat (firstSyllable + (lead * vowelCount + vowel) * tailCount))
  else none

/-- The syllable of one without a closing consonant and such a consonant. -/
def closedSyllable? (front back : Char) : Option Char := do
  let index ← syllableIndex? front
  let tail := back.toNat - noTail
  if index % tailCount = 0 ∧ noTail < back.toNat ∧ tail < tailCount then
    return Char.ofNat (front.toNat + tail)
  else none

/-- The syllable of two parts. -/
def syllable? (front back : Char) : Option Char :=
  (openSyllable? front back).orElse fun _ => closedSyllable? front back

end Hangul

/-- The one character for a letter and the mark behind it. -/
def composition? (letter mark : Char) : Option Char :=
  (Hangul.syllable? letter mark).orElse fun _ =>
    (markedLetters.filter (·.mark = mark.toNat)).findSome? fun row =>
      (row.letters.toList.zip row.composed.toList).lookup letter

/-- The letter and the mark that a character stands for; in ASCII there is none. -/
def decomposition? (character : Char) : Option (Char × Char) :=
  if character.toNat < 0x80 then none
  else
    markedLetters.findSome? fun row =>
      ((row.composed.toList.zip row.letters.toList).lookup character).map fun letter =>
        (letter, Char.ofNat row.mark)

end IntentPolicy
