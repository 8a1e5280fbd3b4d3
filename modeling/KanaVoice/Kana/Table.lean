import KanaVoice.Text.LowerCase
set_option autoImplicit false

/-!
# The kana table

Which kana writes which phonemes.  Kana of two characters stand before all kana of one character, so
the first entry whose kana starts a text is also the longest one.
-/

namespace KanaVoice.Kana

/-- A kana with the phonemes that it writes. -/
structure Entry where
  kana : String
  consonant : Option String
  vowel : String
  deriving DecidableEq, Repr

/-- The entry's phonemes in one word. -/
def Entry.phonemes (e : Entry) : String := e.consonant.getD "" ++ e.vowel

/-- Every kana of the notation. -/
def table : List Entry :=
  [⟨"ヴォ", some "v", "o"⟩, ⟨"ヴェ", some "v", "e"⟩, ⟨"ヴィ", some "v", "i"⟩,
   ⟨"ヴァ", some "v", "a"⟩, ⟨"リョ", some "ry", "o"⟩, ⟨"リュ", some "ry", "u"⟩,
   ⟨"リャ", some "ry", "a"⟩, ⟨"リェ", some "ry", "e"⟩, ⟨"ミョ", some "my", "o"⟩,
   ⟨"ミュ", some "my", "u"⟩, ⟨"ミャ", some "my", "a"⟩, ⟨"ミェ", some "my", "e"⟩,
   ⟨"フォ", some "f", "o"⟩, ⟨"フェ", some "f", "e"⟩, ⟨"フィ", some "f", "i"⟩,
   ⟨"ファ", some "f", "a"⟩, ⟨"ピョ", some "py", "o"⟩, ⟨"ピュ", some "py", "u"⟩,
   ⟨"ピャ", some "py", "a"⟩, ⟨"ピェ", some "py", "e"⟩, ⟨"ビョ", some "by", "o"⟩,
   ⟨"ビュ", some "by", "u"⟩, ⟨"ビャ", some "by", "a"⟩, ⟨"ビェ", some "by", "e"⟩,
   ⟨"ヒョ", some "hy", "o"⟩, ⟨"ヒュ", some "hy", "u"⟩, ⟨"ヒャ", some "hy", "a"⟩,
   ⟨"ヒェ", some "hy", "e"⟩, ⟨"ニョ", some "ny", "o"⟩, ⟨"ニュ", some "ny", "u"⟩,
   ⟨"ニャ", some "ny", "a"⟩, ⟨"ニェ", some "ny", "e"⟩, ⟨"ドゥ", some "d", "u"⟩,
   ⟨"トゥ", some "t", "u"⟩, ⟨"デョ", some "dy", "o"⟩, ⟨"デュ", some "dy", "u"⟩,
   ⟨"デャ", some "dy", "a"⟩, ⟨"ディ", some "d", "i"⟩, ⟨"テョ", some "ty", "o"⟩,
   ⟨"テュ", some "ty", "u"⟩, ⟨"テャ", some "ty", "a"⟩, ⟨"ティ", some "t", "i"⟩,
   ⟨"ツォ", some "ts", "o"⟩, ⟨"ツェ", some "ts", "e"⟩, ⟨"ツィ", some "ts", "i"⟩,
   ⟨"ツァ", some "ts", "a"⟩, ⟨"チョ", some "ch", "o"⟩, ⟨"チュ", some "ch", "u"⟩,
   ⟨"チャ", some "ch", "a"⟩, ⟨"チェ", some "ch", "e"⟩, ⟨"ズィ", some "z", "i"⟩,
   ⟨"スィ", some "s", "i"⟩, ⟨"ジョ", some "j", "o"⟩, ⟨"ジュ", some "j", "u"⟩,
   ⟨"ジャ", some "j", "a"⟩, ⟨"ジェ", some "j", "e"⟩, ⟨"ショ", some "sh", "o"⟩,
   ⟨"シュ", some "sh", "u"⟩, ⟨"シャ", some "sh", "a"⟩, ⟨"シェ", some "sh", "e"⟩,
   ⟨"グヮ", some "gw", "a"⟩, ⟨"クヮ", some "kw", "a"⟩, ⟨"ギョ", some "gy", "o"⟩,
   ⟨"ギュ", some "gy", "u"⟩, ⟨"ギャ", some "gy", "a"⟩, ⟨"ギェ", some "gy", "e"⟩,
   ⟨"キョ", some "ky", "o"⟩, ⟨"キュ", some "ky", "u"⟩, ⟨"キャ", some "ky", "a"⟩,
   ⟨"キェ", some "ky", "e"⟩, ⟨"ウォ", some "w", "o"⟩, ⟨"ウェ", some "w", "e"⟩,
   ⟨"ウィ", some "w", "i"⟩, ⟨"イェ", some "y", "e"⟩, ⟨"ヴ", some "v", "u"⟩, ⟨"ン", none, "N"⟩,
   ⟨"ワ", some "w", "a"⟩, ⟨"ロ", some "r", "o"⟩, ⟨"レ", some "r", "e"⟩, ⟨"ル", some "r", "u"⟩,
   ⟨"リ", some "r", "i"⟩, ⟨"ラ", some "r", "a"⟩, ⟨"ヨ", some "y", "o"⟩, ⟨"ユ", some "y", "u"⟩,
   ⟨"ヤ", some "y", "a"⟩, ⟨"モ", some "m", "o"⟩, ⟨"メ", some "m", "e"⟩, ⟨"ム", some "m", "u"⟩,
   ⟨"ミ", some "m", "i"⟩, ⟨"マ", some "m", "a"⟩, ⟨"ポ", some "p", "o"⟩, ⟨"ボ", some "b", "o"⟩,
   ⟨"ホ", some "h", "o"⟩, ⟨"ペ", some "p", "e"⟩, ⟨"ベ", some "b", "e"⟩, ⟨"ヘ", some "h", "e"⟩,
   ⟨"プ", some "p", "u"⟩, ⟨"ブ", some "b", "u"⟩, ⟨"フ", some "f", "u"⟩, ⟨"ピ", some "p", "i"⟩,
   ⟨"ビ", some "b", "i"⟩, ⟨"ヒ", some "h", "i"⟩, ⟨"パ", some "p", "a"⟩, ⟨"バ", some "b", "a"⟩,
   ⟨"ハ", some "h", "a"⟩, ⟨"ノ", some "n", "o"⟩, ⟨"ネ", some "n", "e"⟩, ⟨"ヌ", some "n", "u"⟩,
   ⟨"ニ", some "n", "i"⟩, ⟨"ナ", some "n", "a"⟩, ⟨"ド", some "d", "o"⟩, ⟨"ト", some "t", "o"⟩,
   ⟨"デ", some "d", "e"⟩, ⟨"テ", some "t", "e"⟩, ⟨"ツ", some "ts", "u"⟩, ⟨"ッ", none, "cl"⟩,
   ⟨"チ", some "ch", "i"⟩, ⟨"ダ", some "d", "a"⟩, ⟨"タ", some "t", "a"⟩, ⟨"ゾ", some "z", "o"⟩,
   ⟨"ソ", some "s", "o"⟩, ⟨"ゼ", some "z", "e"⟩, ⟨"セ", some "s", "e"⟩, ⟨"ズ", some "z", "u"⟩,
   ⟨"ス", some "s", "u"⟩, ⟨"ジ", some "j", "i"⟩, ⟨"シ", some "sh", "i"⟩, ⟨"ザ", some "z", "a"⟩,
   ⟨"サ", some "s", "a"⟩, ⟨"ゴ", some "g", "o"⟩, ⟨"コ", some "k", "o"⟩, ⟨"ゲ", some "g", "e"⟩,
   ⟨"ケ", some "k", "e"⟩, ⟨"グ", some "g", "u"⟩, ⟨"ク", some "k", "u"⟩, ⟨"ギ", some "g", "i"⟩,
   ⟨"キ", some "k", "i"⟩, ⟨"ガ", some "g", "a"⟩, ⟨"カ", some "k", "a"⟩, ⟨"オ", none, "o"⟩,
   ⟨"エ", none, "e"⟩, ⟨"ウ", none, "u"⟩, ⟨"イ", none, "i"⟩, ⟨"ア", none, "a"⟩]

/-- The longest kana that starts the text. -/
def longestPrefix? (text : List Char) : Option Entry :=
  table.find? fun e => e.kana.toList.isPrefixOf text

/-- The spelling under which a phoneme word is looked up: `N` and `cl` as they are, any other
word in lower case, so that a devoiced vowel is found as its voiced one. -/
def normalize (phonemes : String) : String :=
  if phonemes = "N" ∨ phonemes = "cl" then phonemes else Text.lowerCase phonemes

/-- The kana for a phoneme word; a word that no kana writes stands for itself, normalized. -/
def ofPhonemes (phonemes : String) : String :=
  match table.find? fun e => e.phonemes = normalize phonemes with
  | some e => e.kana
  | none => normalize phonemes

theorem length_table : table.length = 144 := by decide +kernel

end KanaVoice.Kana
