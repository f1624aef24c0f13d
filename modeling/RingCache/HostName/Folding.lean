import RingCache.Text.Canonical
import RingCache.Text.Normal
import RingCache.Text.Printable

/-!
# Folding of host names

Host names that differ in the case of letters, in the width or the style of
characters or by characters that show nothing are one name. `Folding.fold?`
brings a name to the form in which all these agree: lower case, plain style,
composed characters. It fails on characters that no host name holds, among them
all that fold to a text with a blank, a slash or the like.
-/

namespace RingCache.Folding

/-- The code points that a name is read without. -/
def ignored : List (Nat × Nat) := [
  (0xAD, 0xAD), (0x34F, 0x34F), (0x115F, 0x1160), (0x17B4, 0x17B5), (0x180B, 0x180F),
  (0x200B, 0x200B), (0x2060, 0x2064), (0x206A, 0x206F), (0x3164, 0x3164), (0xFE00, 0xFE0F),
  (0xFEFF, 0xFEFF), (0xFFA0, 0xFFA0), (0x1BCA0, 0x1BCA3), (0x1D173, 0x1D17A), (0xE0001, 0xE0001),
  (0xE0020, 0xE007F), (0xE0100, 0xE01EF)]

/-- The code points that show something but stand in no name. -/
def refused : List (Nat × Nat) := [
  (0xA0, 0xA0), (0xA8, 0xA8), (0xAF, 0xAF), (0xB4, 0xB4), (0xB8, 0xB8), (0x2D8, 0x2DD),
  (0x37A, 0x37A), (0x384, 0x384), (0x1FBD, 0x1FBD), (0x1FBF, 0x1FC0), (0x1FFE, 0x200A),
  (0x2017, 0x2017), (0x2024, 0x2026), (0x202F, 0x202F), (0x203E, 0x203E), (0x2047, 0x2049),
  (0x205F, 0x205F), (0x2100, 0x2101), (0x2105, 0x2106), (0x2488, 0x249B), (0x2A74, 0x2A74),
  (0x2FF0, 0x3000), (0x309B, 0x309C), (0x31EF, 0x31EF), (0x33C2, 0x33C2), (0x33C7, 0x33C7),
  (0x33D8, 0x33D8), (0xFC5E, 0xFC63), (0xFDFA, 0xFDFB), (0xFE12, 0xFE13), (0xFE16, 0xFE16),
  (0xFE19, 0xFE19), (0xFE30, 0xFE30), (0xFE47, 0xFE4C), (0xFE52, 0xFE52), (0xFE55, 0xFE56),
  (0xFE5F, 0xFE5F), (0xFE64, 0xFE65), (0xFE68, 0xFE68), (0xFE6A, 0xFE70), (0xFE72, 0xFE72),
  (0xFE74, 0xFE76), (0xFE78, 0xFE78), (0xFE7A, 0xFE7A), (0xFE7C, 0xFE7C), (0xFE7E, 0xFE7E),
  (0xFF03, 0xFF03), (0xFF05, 0xFF05), (0xFF0F, 0xFF0F), (0xFF1A, 0xFF1A), (0xFF1C, 0xFF1C),
  (0xFF1E, 0xFF20), (0xFF3B, 0xFF3E), (0xFF5C, 0xFF5C), (0xFFE3, 0xFFE3), (0xFFFC, 0xFFFD),
  (0x1F100, 0x1F100)]

/-- What characters beyond ASCII are folded to. Characters that split by
canonical equivalence are folded after it and so do not appear. -/
def foldings : List Images.Row := [
  .read 0xAA 1 "a",
  .read 0xB2 1 "2 3",
  .read 0xB5 1 "μ",
  .read 0xB9 1 "1 o » 1⁄4 1⁄2 3⁄4",
  .read 0xC6 1 "æ",
  .read 0xD0 1 "ð",
  .read 0xD8 1 "ø",
  .read 0xDE 1 "þ",
  .read 0x110 1 "đ",
  .read 0x126 1 "ħ",
  .read 0x132 1 "ij ij",
  .read 0x13F 1 "l· l· ł",
  .read 0x149 1 "ʼn ŋ",
  .read 0x152 1 "œ",
  .read 0x166 1 "ŧ",
  .read 0x17F 1 "s ƀ ɓ ƃ ƃ ƅ ƅ ɔ ƈ ƈ ɖ ɗ ƌ ƌ ƍ ǝ ə ɛ ƒ ƒ ɠ ɣ ƕ ɩ ɨ ƙ",
  .read 0x19C 1 "ɯ ɲ ƞ ɵ",
  .read 0x1A2 1 "ƣ ƣ ƥ ƥ ʀ ƨ ƨ ʃ ƪ ƫ ƭ ƭ ʈ",
  .read 0x1B1 1 "ʊ ʋ ƴ ƴ ƶ ƶ ʒ ƹ",
  .read 0x1BC 1 "ƽ",
  .read 0x1C4 1 "dž dž dž lj lj lj nj nj nj",
  .read 0x1E4 1 "ǥ",
  .read 0x1F1 1 "dz dz dz",
  .read 0x1F6 1 "ƕ ƿ",
  .read 0x21C 1 "ȝ",
  .read 0x220 2 "ƞ ȣ ȥ",
  .read 0x23A 1 "ⱥ ȼ ȼ ƚ ⱦ ȿ ɀ ɂ ɂ ƀ ʉ ʌ ɇ",
  .read 0x248 2 "ɉ ɋ ɍ ɏ",
  .read 0x2B0 1 "h ɦ j r ɹ ɻ ʁ w y",
  .read 0x2E0 1 "ɣ l s x ʕ",
  .read 0x345 1 "ι",
  .read 0x370 1 "ͱ ͱ ͳ",
  .read 0x376 1 "ͷ",
  .read 0x37F 1 "ϳ",
  .read 0x391 1 "α β γ δ ε ζ η θ ι κ λ μ ν ξ ο π ρ",
  .read 0x3A3 1 "σ τ υ φ χ ψ ω",
  .read 0x3CF 1 "ϗ β θ υ",
  .read 0x3D5 1 "φ π",
  .read 0x3D8 2 "ϙ ϛ ϝ ϟ ϡ ϣ ϥ ϧ ϩ ϫ ϭ ϯ",
  .read 0x3F0 1 "κ ρ σ ϳ θ ε ϶ ϸ ϸ σ ϻ ϻ ϼ ͻ ͼ ͽ",
  .read 0x402 1 "ђ",
  .read 0x404 1 "є ѕ і",
  .read 0x408 1 "ј љ њ ћ",
  .read 0x40F 1 "џ а б в г д е ж з и",
  .read 0x41A 1 "к л м н о п р с т у ф х ц ч ш щ ъ ы ь э ю я",
  .read 0x460 2 "ѡ ѣ ѥ ѧ ѩ ѫ ѭ ѯ ѱ ѳ ѵ",
  .read 0x478 2 "ѹ ѻ ѽ ѿ ҁ",
  .read 0x48A 2 "ҋ ҍ ҏ ґ ғ ҕ җ ҙ қ ҝ ҟ ҡ ң ҥ ҧ ҩ ҫ ҭ ү ұ ҳ ҵ ҷ ҹ һ ҽ ҿ ӏ",
  .read 0x4C3 2 "ӄ ӆ ӈ ӊ ӌ ӎ",
  .read 0x4D4 1 "ӕ",
  .read 0x4D8 1 "ә",
  .read 0x4E0 1 "ӡ",
  .read 0x4E8 1 "ө",
  .read 0x4F6 1 "ӷ",
  .read 0x4FA 2 "ӻ ӽ ӿ ԁ ԃ ԅ ԇ ԉ ԋ ԍ ԏ ԑ ԓ ԕ ԗ ԙ ԛ ԝ ԟ ԡ ԣ ԥ ԧ ԩ ԫ ԭ ԯ",
  .read 0x531 1 "ա բ գ դ ե զ է ը թ ժ ի լ խ ծ կ հ ձ ղ ճ մ յ ն շ ո չ պ ջ ռ ս վ տ ր ց ւ փ ք օ ֆ",
  .read 0x587 1 "եւ",
  .read 0x675 1 "اٴ وٴ ۇٴ يٴ",
  .read 0xE33 1 "\u0E4Dา",
  .read 0xEB3 1 "\u0ECDາ",
  .read 0xEDC 1 "ຫນ ຫມ",
  .read 0xF0C 1 "་",
  .read 0xF77 1 "\u0FB2\u0F71\u0F80",
  .read 0xF79 1 "\u0FB3\u0F71\u0F80",
  .read 0x10A0 1 "ⴀ ⴁ ⴂ ⴃ ⴄ ⴅ ⴆ ⴇ ⴈ ⴉ ⴊ ⴋ ⴌ ⴍ ⴎ ⴏ ⴐ ⴑ ⴒ ⴓ ⴔ ⴕ ⴖ ⴗ ⴘ ⴙ ⴚ ⴛ ⴜ ⴝ ⴞ ⴟ ⴠ ⴡ ⴢ ⴣ ⴤ ⴥ",
  .read 0x10C7 1 "ⴧ",
  .read 0x10CD 1 "ⴭ",
  .read 0x10FC 1 "ნ",
  .read 0x13F8 1 "Ᏸ Ᏹ Ᏺ Ᏻ Ᏼ Ᏽ",
  .read 0x1C80 1 "в д о с т т ъ ѣ ꙋ ᲊ",
  .read 0x1C90 1 "ა ბ გ დ ე ვ ზ თ ი კ ლ მ ნ ო პ ჟ რ ს ტ უ ფ ქ ღ ყ შ ჩ ც ძ წ ჭ ხ ჯ ჰ ჱ ჲ ჳ ჴ ჵ ჶ",
  .read 0x1CB7 1 "ჷ ჸ ჹ ჺ",
  .read 0x1CBD 1 "ჽ ჾ ჿ",
  .read 0x1D2C 1 "a æ b ᴯ d e ǝ g h i j k l m n ᴻ o ȣ p r t u w a ɐ ɑ ᴂ b d e ə ɛ ɜ g ᵎ k m ŋ o",
  .read 0x1D53 1 "ɔ ᴖ ᴗ p t u ᴝ ɯ v ᴥ β γ δ φ χ i r u v β γ ρ φ χ",
  .read 0x1D78 1 "н",
  .read 0x1D9B 1 "ɒ c ɕ ð ɜ f ɟ ɡ ɥ ɨ ɩ ɪ ᵻ ʝ ɭ ᶅ ʟ ɱ ɰ ɲ ɳ ɴ ɵ ɸ ʂ ʃ ƫ ʉ ʊ ᴜ ʋ ʌ z ʐ ʑ ʒ θ",
  .read 0x1E9A 1 "aʾ",
  .read 0x1E9E 1 "ß",
  .read 0x1EFA 2 "ỻ ỽ ỿ",
  .read 0x2011 1 "‐",
  .read 0x2033 1 "′′ ′′′ ‵ ‵‵ ‵‵‵",
  .read 0x203C 1 "!!",
  .read 0x2057 1 "′′′′",
  .read 0x2070 1 "0 i",
  .read 0x2074 1 "4 5 6 7 8 9 + − = ( ) n 0 1 2 3 4 5 6 7 8 9 + − = ( )",
  .read 0x2090 1 "a e o x ə h k l m n p s t",
  .read 0x20A8 1 "rs",
  .read 0x2102 1 "c °c",
  .read 0x2107 1 "ɛ ℈ °f g h h h h ħ i i l l ℔ n no ℗ ℘ p q r r r ℞ ℟ sm tel tm ℣ z",
  .read 0x2128 1 "z",
  .read 0x212C 1 "b c ℮ e e f ⅎ m o א ב ג ד i ℺ fax π γ γ π ∑",
  .read 0x2145 1 "d d e i j",
  .read 0x2150 1 "1⁄7 1⁄9 1⁄10 1⁄3 2⁄3 1⁄5 2⁄5 3⁄5 4⁄5 1⁄6 5⁄6 1⁄8 3⁄8 5⁄8 7⁄8 1⁄ i ii iii iv v",
  .read 0x2165 1 "vi vii viii ix x xi xii l c d m i ii iii iv v vi vii viii ix x xi xii l c d m",
  .read 0x2183 1 "ↄ",
  .read 0x2189 1 "0⁄3",
  .read 0x222C 1 "∫∫ ∫∫∫ ∮ ∮∮ ∮∮∮",
  .read 0x2460 1 "1 2 3 4 5 6 7 8 9 10 11 12 13 14 15 16 17 18 19 20 (1) (2) (3) (4) (5) (6) (7)",
  .read 0x247B 1 "(8) (9) (10) (11) (12) (13) (14) (15) (16) (17) (18) (19) (20)",
  .read 0x249C 1 "(a) (b) (c) (d) (e) (f) (g) (h) (i) (j) (k) (l) (m) (n) (o) (p) (q) (r) (s)",
  .read 0x24AF 1 "(t) (u) (v) (w) (x) (y) (z) a b c d e f g h i j k l m n o p q r s t u v w x y",
  .read 0x24CF 1 "z a b c d e f g h i j k l m n o p q r s t u v w x y z 0",
  .read 0x2A0C 1 "∫∫∫∫",
  .read 0x2A75 1 "== ===",
  .read 0x2C00 1 "ⰰ ⰱ ⰲ ⰳ ⰴ ⰵ ⰶ ⰷ ⰸ ⰹ ⰺ ⰻ ⰼ ⰽ ⰾ ⰿ ⱀ ⱁ ⱂ ⱃ ⱄ ⱅ ⱆ ⱇ ⱈ ⱉ ⱊ ⱋ ⱌ ⱍ ⱎ ⱏ ⱐ ⱑ ⱒ ⱓ ⱔ ⱕ ⱖ",
  .read 0x2C27 1 "ⱗ ⱘ ⱙ ⱚ ⱛ ⱜ ⱝ ⱞ ⱟ",
  .read 0x2C60 1 "ⱡ ⱡ ɫ ᵽ ɽ",
  .read 0x2C67 2 "ⱨ ⱪ ⱬ",
  .read 0x2C6D 1 "ɑ ɱ ɐ ɒ ⱱ ⱳ ⱳ ⱴ ⱶ",
  .read 0x2C7C 1 "j v ȿ ɀ ⲁ",
  .read 0x2C82 2 "ⲃ ⲅ ⲇ ⲉ ⲋ ⲍ ⲏ ⲑ ⲓ ⲕ ⲗ ⲙ ⲛ ⲝ ⲟ ⲡ ⲣ ⲥ ⲧ ⲩ ⲫ ⲭ ⲯ ⲱ ⲳ ⲵ ⲷ ⲹ ⲻ ⲽ ⲿ ⳁ ⳃ ⳅ ⳇ ⳉ ⳋ ⳍ ⳏ",
  .read 0x2CD0 2 "ⳑ ⳓ ⳕ ⳗ ⳙ ⳛ ⳝ ⳟ ⳡ ⳣ",
  .read 0x2CEB 1 "ⳬ ⳬ ⳮ",
  .read 0x2CF2 1 "ⳳ",
  .read 0x2D6F 1 "ⵡ",
  .read 0x2E9F 1 "母",
  .read 0x2EF3 1 "龟",
  .read 0x2F00 1 "一 丨 丶 丿 乙 亅 二 亠 人 儿 入 八 冂 冖 冫 几 凵 刀 力 勹 匕 匚 匸 十 卜 卩 厂 厶 又 口 囗 土 士 夂 夊 夕 大 女 子",
  .read 0x2F27 1 "宀 寸 小 尢 尸 屮 山 巛 工 己 巾 干 幺 广 廴 廾 弋 弓 彐 彡 彳 心 戈 戶 手 支 攴 文 斗 斤 方 无 日 曰 月 木 欠 止 歹",
  .read 0x2F4E 1 "殳 毋 比 毛 氏 气 水 火 爪 父 爻 爿 片 牙 牛 犬 玄 玉 瓜 瓦 甘 生 用 田 疋 疒 癶 白 皮 皿 目 矛 矢 石 示 禸 禾 穴 立",
  .read 0x2F75 1 "竹 米 糸 缶 网 羊 羽 老 而 耒 耳 聿 肉 臣 自 至 臼 舌 舛 舟 艮 色 艸 虍 虫 血 行 衣 襾 見 角 言 谷 豆 豕 豸 貝 赤 走",
  .read 0x2F9C 1 "足 身 車 辛 辰 辵 邑 酉 釆 里 金 長 門 阜 隶 隹 雨 靑 非 面 革 韋 韭 音 頁 風 飛 食 首 香 馬 骨 高 髟 鬥 鬯 鬲 鬼 魚",
  .read 0x2FC3 1 "鳥 鹵 鹿 麥 麻 黃 黍 黑 黹 黽 鼎 鼓 鼠 鼻 齊 齒 龍 龜 龠",
  .read 0x3002 1 ".",
  .read 0x3036 1 "〒 〷 十 卄 卅",
  .read 0x309F 1 "より",
  .read 0x30FF 1 "コト",
  .read 0x3131 1 "ᄀ ᄁ ᆪ ᄂ ᆬ ᆭ ᄃ ᄄ ᄅ ᆰ ᆱ ᆲ ᆳ ᆴ ᆵ ᄚ ᄆ ᄇ ᄈ ᄡ ᄉ ᄊ ᄋ ᄌ ᄍ ᄎ ᄏ ᄐ ᄑ ᄒ ᅡ ᅢ ᅣ ᅤ ᅥ ᅦ ᅧ ᅨ ᅩ",
  .read 0x3158 1 "ᅪ ᅫ ᅬ ᅭ ᅮ ᅯ ᅰ ᅱ ᅲ ᅳ ᅴ ᅵ",
  .read 0x3165 1 "ᄔ ᄕ ᇇ ᇈ ᇌ ᇎ ᇓ ᇗ ᇙ ᄜ ᇝ ᇟ ᄝ ᄞ ᄠ ᄢ ᄣ ᄧ ᄩ ᄫ ᄬ ᄭ ᄮ ᄯ ᄲ ᄶ ᅀ ᅇ ᅌ ᇱ ᇲ ᅗ ᅘ ᅙ ᆄ ᆅ ᆈ ᆑ ᆒ",
  .read 0x318C 1 "ᆔ ᆞ ᆡ",
  .read 0x3192 1 "一 二 三 四 上 中 下 甲 乙 丙 丁 天 地 人",
  .read 0x3200 1 "(ᄀ) (ᄂ) (ᄃ) (ᄅ) (ᄆ) (ᄇ) (ᄉ) (ᄋ) (ᄌ) (ᄎ) (ᄏ) (ᄐ) (ᄑ) (ᄒ) (가) (나) (다) (라) (마)",
  .read 0x3213 1 "(바) (사) (아) (자) (차) (카) (타) (파) (하) (주) (오전) (오후)",
  .read 0x3220 1 "(一) (二) (三) (四) (五) (六) (七) (八) (九) (十) (月) (火) (水) (木) (金) (土) (日) (株) (有)",
  .read 0x3233 1 "(社) (名) (特) (財) (祝) (労) (代) (呼) (学) (監) (企) (資) (協) (祭) (休) (自) (至) 問 幼 文 箏",
  .read 0x3250 1 "pte 21 22 23 24 25 26 27 28 29 30 31 32 33 34 35 ᄀ ᄂ ᄃ ᄅ ᄆ ᄇ ᄉ ᄋ ᄌ ᄎ ᄏ ᄐ ᄑ ᄒ 가",
  .read 0x326F 1 "나 다 라 마 바 사 아 자 차 카 타 파 하 참고 주의 우 ㉿ 一 二 三 四 五 六 七 八 九 十 月 火 水 木 金 土 日 株 有 社 名",
  .read 0x3295 1 "特 財 祝 労 秘 男 女 適 優 印 注 項 休 写 正 上 中 下 左 右 医 宗 学 監 企 資 協 夜 36 37 38 39 40 41 42",
  .read 0x32B8 1 "43 44 45 46 47 48 49 50 1月 2月 3月 4月 5月 6月 7月 8月 9月 10月 11月 12月 hg erg ev ltd ア",
  .read 0x32D1 1 "イ ウ エ オ カ キ ク ケ コ サ シ ス セ ソ タ チ ツ テ ト ナ ニ ヌ ネ ノ ハ ヒ フ ヘ ホ マ ミ ム メ モ ヤ ユ ヨ ラ リ",
  .read 0x32F8 1 "ル レ ロ ワ ヰ ヱ ヲ 令和 アパート アルファ アンペア アール イニング インチ ウォン エスクード エーカー オンス オーム カイリ カラット",
  .read 0x330D 1 "カロリー ガロン ガンマ ギガ ギニー キュリー ギルダー キロ キログラム キロメートル キロワット グラム グラムトン クルゼイロ クローネ ケース",
  .read 0x331D 1 "コルナ コーポ サイクル サンチーム シリング センチ セント ダース デシ ドル トン ナノ ノット ハイツ パーセント パーツ バーレル ピアストル",
  .read 0x332F 1 "ピクル ピコ ビル ファラッド フィート ブッシェル フラン ヘクタール ペソ ペニヒ ヘルツ ペンス ページ ベータ ポイント ボルト ホン ポンド",
  .read 0x3341 1 "ホール ホーン マイクロ マイル マッハ マルク マンション ミクロン ミリ ミリバール メガ メガトン メートル ヤード ヤール ユアン リットル リラ",
  .read 0x3353 1 "ルピー ルーブル レム レントゲン ワット 0点 1点 2点 3点 4点 5点 6点 7点 8点 9点 10点 11点 12点 13点 14点 15点",
  .read 0x3368 1 "16点 17点 18点 19点 20点 21点 22点 23点 24点 hpa da au bar ov pc dm dm2 dm3 iu 平成 昭和 大正",
  .read 0x337E 1 "明治 株式会社 pa na μa ma ka kb mb gb cal kcal pf nf μf μg mg kg hz khz mhz ghz thz",
  .read 0x3395 1 "μl ml dl kl fm nm μm mm cm km mm2 cm2 m2 km2 mm3 cm3 m3 km3 m∕s m∕s2 pa kpa",
  .read 0x33AB 1 "mpa gpa rad rad∕s rad∕s2 ps ns μs ms pv nv μv mv kv mv pw nw μw mw kw mw kω mω",
  .read 0x33C3 1 "bq cc cd c∕kg",
  .read 0x33C8 1 "db gy ha hp in kk km kt lm ln log lx mb mil mol ph",
  .read 0x33D9 1 "ppm pr sr sv wb v∕m a∕m 1日 2日 3日 4日 5日 6日 7日 8日 9日 10日 11日 12日 13日 14日 15日 16日",
  .read 0x33F0 1 "17日 18日 19日 20日 21日 22日 23日 24日 25日 26日 27日 28日 29日 30日 31日 gal",
  .read 0xA640 2 "ꙁ ꙃ ꙅ ꙇ ꙉ ꙋ ꙍ ꙏ ꙑ ꙓ ꙕ ꙗ ꙙ ꙛ ꙝ ꙟ ꙡ ꙣ ꙥ ꙧ ꙩ ꙫ ꙭ",
  .read 0xA680 2 "ꚁ ꚃ ꚅ ꚇ ꚉ ꚋ ꚍ ꚏ ꚑ ꚓ ꚕ ꚗ ꚙ ꚛ",
  .read 0xA69C 1 "ъ ь",
  .read 0xA722 2 "ꜣ ꜥ ꜧ ꜩ ꜫ ꜭ ꜯ",
  .read 0xA732 2 "ꜳ ꜵ ꜷ ꜹ ꜻ ꜽ ꜿ ꝁ ꝃ ꝅ ꝇ ꝉ ꝋ ꝍ ꝏ ꝑ ꝓ ꝕ ꝗ ꝙ ꝛ ꝝ ꝟ ꝡ ꝣ ꝥ ꝧ ꝩ ꝫ ꝭ ꝯ ꝯ",
  .read 0xA779 1 "ꝺ ꝺ ꝼ ꝼ ᵹ ꝿ",
  .read 0xA780 2 "ꞁ ꞃ ꞅ ꞇ",
  .read 0xA78B 1 "ꞌ ꞌ ɥ ꞎ ꞏ ꞑ ꞑ ꞓ",
  .read 0xA796 2 "ꞗ ꞙ ꞛ ꞝ ꞟ ꞡ ꞣ ꞥ ꞧ ꞩ",
  .read 0xA7AA 1 "ɦ ɜ ɡ ɬ ɪ ꞯ ʞ ʇ ʝ ꭓ ꞵ",
  .read 0xA7B6 2 "ꞷ ꞹ ꞻ ꞽ ꞿ ꟁ ꟃ",
  .read 0xA7C4 1 "ꞔ ʂ ᶎ ꟈ ꟈ ꟊ ꟊ ɤ ꟍ",
  .read 0xA7CE 2 "꟏ ꟑ ꟓ ꟕ ꟗ ꟙ ꟛ ƛ",
  .read 0xA7F1 1 "s c f q ꟶ ꟶ ꟷ ħ œ",
  .read 0xAB5C 1 "ꜧ ꬷ ɫ ꭒ",
  .read 0xAB69 1 "ʍ",
  .read 0xAB70 1 "Ꭰ Ꭱ Ꭲ Ꭳ Ꭴ Ꭵ Ꭶ Ꭷ Ꭸ Ꭹ Ꭺ Ꭻ Ꭼ Ꭽ Ꭾ Ꭿ Ꮀ Ꮁ Ꮂ Ꮃ Ꮄ Ꮅ Ꮆ Ꮇ Ꮈ Ꮉ Ꮊ Ꮋ Ꮌ Ꮍ Ꮎ Ꮏ Ꮐ Ꮑ Ꮒ Ꮓ Ꮔ Ꮕ Ꮖ",
  .read 0xAB97 1 "Ꮗ Ꮘ Ꮙ Ꮚ Ꮛ Ꮜ Ꮝ Ꮞ Ꮟ Ꮠ Ꮡ Ꮢ Ꮣ Ꮤ Ꮥ Ꮦ Ꮧ Ꮨ Ꮩ Ꮪ Ꮫ Ꮬ Ꮭ Ꮮ Ꮯ Ꮰ Ꮱ Ꮲ Ꮳ Ꮴ Ꮵ Ꮶ Ꮷ Ꮸ Ꮹ Ꮺ Ꮻ Ꮼ Ꮽ",
  .read 0xABBE 1 "Ꮾ Ꮿ",
  .read 0xFB00 1 "ff fi fl ffi ffl st st",
  .read 0xFB13 1 "մն մե մի վն մխ",
  .read 0xFB20 1 "ע א ד ה כ ל ם ר ת +",
  .read 0xFB4F 1 "אל ٱ ٱ ٻ ٻ ٻ ٻ پ پ پ پ ڀ ڀ ڀ ڀ ٺ ٺ ٺ ٺ ٿ ٿ ٿ ٿ ٹ ٹ ٹ ٹ ڤ ڤ ڤ ڤ ڦ ڦ ڦ ڦ ڄ ڄ ڄ ڄ",
  .read 0xFB76 1 "ڃ ڃ ڃ ڃ چ چ چ چ ڇ ڇ ڇ ڇ ڍ ڍ ڌ ڌ ڎ ڎ ڈ ڈ ژ ژ ڑ ڑ ک ک ک ک گ گ گ گ ڳ ڳ ڳ ڳ ڱ ڱ ڱ",
  .read 0xFB9D 1 "ڱ ں ں ڻ ڻ ڻ ڻ ۀ ۀ ہ ہ ہ ہ ھ ھ ھ ھ ے ے ۓ ۓ",
  .read 0xFBD3 1 "ڭ ڭ ڭ ڭ ۇ ۇ ۆ ۆ ۈ ۈ ۇٴ ۋ ۋ ۅ ۅ ۉ ۉ ې ې ې ې ى ى ئا ئا ئە ئە ئو ئو ئۇ ئۇ ئۆ ئۆ",
  .read 0xFBF4 1 "ئۈ ئۈ ئې ئې ئې ئى ئى ئى ی ی ی ی ئج ئح ئم ئى ئي بج بح بخ بم بى بي تج تح تخ تم",
  .read 0xFC0F 1 "تى تي ثج ثم ثى ثي جح جم حج حم خج خح خم سج سح سخ سم صح صم ضج ضح ضخ ضم طح طم ظم",
  .read 0xFC29 1 "عج عم غج غم فج فح فخ فم فى في قح قم قى قي كا كج كح كخ كل كم كى كي لج لح لخ لم",
  .read 0xFC43 1 "لى لي مج مح مخ مم مى مي نج نح نخ نم نى ني هج هم هى هي يج يح يخ يم يى يي",
  .read 0xFC5B 1 "ذ\u0670 ر\u0670 ى\u0670",
  .read 0xFC64 1 "ئر ئز ئم ئن ئى ئي بر بز بم بن بى بي تر تز تم تن تى تي ثر ثز ثم ثن ثى ثي فى في",
  .read 0xFC7E 1 "قى قي كا كل كم كى كي لم لى لي ما مم نر نز نم نن نى ني ى\u0670 ير يز يم ين يى",
  .read 0xFC96 1 "يي ئج ئح ئخ ئم ئه بج بح بخ بم به تج تح تخ تم ته ثم جح جم حج حم خج خم سج سح سخ",
  .read 0xFCB0 1 "سم صح صخ صم ضج ضح ضخ ضم طح ظم عج عم غج غم فج فح فخ فم قح قم كج كح كخ كل كم لج",
  .read 0xFCCA 1 "لح لخ لم له مج مح مخ مم نج نح نخ نم نه هج هم ه\u0670 يج يح يخ يم يه ئم ئه بم",
  .read 0xFCE2 1 "به تم ته ثم ثه سم سه شم شه كل كم لم نم نه يم يه ـ\u064E\u0651 ـ\u064F\u0651",
  .read 0xFCF4 1 "ـ\u0650\u0651 طى طي عى عي غى غي سى سي شى شي حى حي جى جي خى خي صى صي ضى ضي شج",
  .read 0xFD0A 1 "شح شخ شم شر سر صر ضر طى طي عى عي غى غي سى سي شى شي حى حي جى جي خى خي صى صي ضى",
  .read 0xFD24 1 "ضي شج شح شخ شم شر سر صر ضر شج شح شخ شم سه شه طم سج سح سخ شج شح شخ طم ظم",
  .read 0xFD3C 1 "ا\u064B ا\u064B",
  .read 0xFD50 1 "تجم تحج تحج تحم تخم تمج تمح تمخ جمح جمح حمي حمى سحج سجح سجى سمح سمح سمج سمم",
  .read 0xFD63 1 "سمم صحح صحح صمم شحم شحم شجي شمخ شمخ شمم شمم ضحى ضخم ضخم طمح طمح طمم طمي عجم",
  .read 0xFD76 1 "عمم عمم عمى غمم غمي غمى فخم فخم قمح قمم لحم لحي لحى لجج لجج لخم لخم لمح لمح",
  .read 0xFD89 1 "محج محم محي مجح مجم مخج مخم ﶐ ﶑ مجخ همج همم نحم نحى نجم نجم نجى نمي نمى يمم",
  .read 0xFD9D 1 "يمم بخي تجي تجى تخي تخى تمي تمى جمي جحى جمى سخى صحي شحي ضحي لجي لمي يحي يجي",
  .read 0xFDB0 1 "يمي ممي قمي نحي قمح لحم عمي كمي نجح مخي لجم كمم لجم نجح جحي حجي مجي فمي بحي",
  .read 0xFDC3 1 "كمم عجم صمم سخي نجي",
  .read 0xFDF0 1 "صلے قلے الله اكبر محمد صلعم رسول عليه وسلم صلى",
  .read 0xFDFC 1 "ریال",
  .read 0xFE10 1 ", 、",
  .read 0xFE14 1 "; !",
  .read 0xFE17 1 "〖 〗",
  .read 0xFE31 1 "— – _ _ ( ) \x7b \x7d 〔 〕 【 】 《 》 〈 〉 「 」 『 』",
  .read 0xFE4D 1 "_ _ _ , 、",
  .read 0xFE54 1 ";",
  .read 0xFE57 1 "! — ( ) \x7b \x7d 〔 〕",
  .read 0xFE60 1 "& * + -",
  .read 0xFE66 1 "=",
  .read 0xFE69 1 "$",
  .read 0xFE71 1 "ـ\u064B",
  .read 0xFE77 2 "ـ\u064E ـ\u064F ـ\u0650 ـ\u0651",
  .read 0xFE7F 1 "ـ\u0652 ء آ آ أ أ ؤ ؤ إ إ ئ ئ ئ ئ ا ا ب ب ب ب ة ة ت ت ت ت ث ث ث ث ج ج ج ج ح ح",
  .read 0xFEA3 1 "ح ح خ خ خ خ د د ذ ذ ر ر ز ز س س س س ش ش ش ش ص ص ص ص ض ض ض ض ط ط ط ط ظ ظ ظ ظ ع",
  .read 0xFECA 1 "ع ع ع غ غ غ غ ف ف ف ف ق ق ق ق ك ك ك ك ل ل ل ل م م م م ن ن ن ن ه ه ه ه و و ى ى",
  .read 0xFEF1 1 "ي ي ي ي لآ لآ لأ لأ لإ لإ لا لا",
  .read 0xFF01 1 "! \"",
  .read 0xFF04 1 "$",
  .read 0xFF06 1 "& ' ( ) * + , - .",
  .read 0xFF10 1 "0 1 2 3 4 5 6 7 8 9",
  .read 0xFF1B 1 ";",
  .read 0xFF1D 1 "=",
  .read 0xFF21 1 "a b c d e f g h i j k l m n o p q r s t u v w x y z",
  .read 0xFF3F 1 "_ \x60 a b c d e f g h i j k l m n o p q r s t u v w x y z \x7b",
  .read 0xFF5D 1 "\x7d ~ ⦅ ⦆ . 「 」 、 ・ ヲ ァ ィ ゥ ェ ォ ャ ュ ョ ッ ー ア イ ウ エ オ カ キ ク ケ コ サ シ ス セ ソ タ チ ツ",
  .read 0xFF83 1 "テ ト ナ ニ ヌ ネ ノ ハ ヒ フ ヘ ホ マ ミ ム メ モ ヤ ユ ヨ ラ リ ル レ ロ ワ ン \u3099 \u309A",
  .read 0xFFA1 1 "ᄀ ᄁ ᆪ ᄂ ᆬ ᆭ ᄃ ᄄ ᄅ ᆰ ᆱ ᆲ ᆳ ᆴ ᆵ ᄚ ᄆ ᄇ ᄈ ᄡ ᄉ ᄊ ᄋ ᄌ ᄍ ᄎ ᄏ ᄐ ᄑ ᄒ",
  .read 0xFFC2 1 "ᅡ ᅢ ᅣ ᅤ ᅥ ᅦ",
  .read 0xFFCA 1 "ᅧ ᅨ ᅩ ᅪ ᅫ ᅬ",
  .read 0xFFD2 1 "ᅭ ᅮ ᅯ ᅰ ᅱ ᅲ",
  .read 0xFFDA 1 "ᅳ ᅴ ᅵ",
  .read 0xFFE0 1 "¢ £ ¬",
  .read 0xFFE4 1 "¦ ¥ ₩",
  .read 0xFFE8 1 "│ ← ↑ → ↓ ■ ○",
  .read 0x10400 1 "𐐨 𐐩 𐐪 𐐫 𐐬 𐐭 𐐮 𐐯 𐐰 𐐱 𐐲 𐐳 𐐴 𐐵 𐐶 𐐷 𐐸 𐐹 𐐺 𐐻 𐐼 𐐽 𐐾 𐐿 𐑀 𐑁 𐑂 𐑃 𐑄 𐑅 𐑆 𐑇 𐑈 𐑉 𐑊 𐑋 𐑌 𐑍 𐑎",
  .read 0x10427 1 "𐑏",
  .read 0x104B0 1 "𐓘 𐓙 𐓚 𐓛 𐓜 𐓝 𐓞 𐓟 𐓠 𐓡 𐓢 𐓣 𐓤 𐓥 𐓦 𐓧 𐓨 𐓩 𐓪 𐓫 𐓬 𐓭 𐓮 𐓯 𐓰 𐓱 𐓲 𐓳 𐓴 𐓵 𐓶 𐓷 𐓸 𐓹 𐓺 𐓻",
  .read 0x10570 1 "𐖗 𐖘 𐖙 𐖚 𐖛 𐖜 𐖝 𐖞 𐖟 𐖠 𐖡",
  .read 0x1057C 1 "𐖣 𐖤 𐖥 𐖦 𐖧 𐖨 𐖩 𐖪 𐖫 𐖬 𐖭 𐖮 𐖯 𐖰 𐖱",
  .read 0x1058C 1 "𐖳 𐖴 𐖵 𐖶 𐖷 𐖸 𐖹",
  .read 0x10594 1 "𐖻 𐖼",
  .read 0x10781 1 "ː ˑ æ ʙ ɓ",
  .read 0x10787 1 "ʣ ꭦ ʥ ʤ ɖ ɗ ᶑ ɘ ɞ ʩ ɤ ɢ ɠ ʛ ħ ʜ ɧ ʄ ʪ ʫ ɬ 𝼄 ꞎ ɮ 𝼅 ʎ 𝼆 ø ɶ ɷ q ɺ 𝼈 ɽ ɾ ʀ ʨ ʦ ꭧ",
  .read 0x107AE 1 "ʧ ʈ ⱱ",
  .read 0x107B2 1 "ʏ ʡ ʢ ʘ ǀ ǁ ǂ 𝼊 𝼞",
  .read 0x10C80 1 "𐳀 𐳁 𐳂 𐳃 𐳄 𐳅 𐳆 𐳇 𐳈 𐳉 𐳊 𐳋 𐳌 𐳍 𐳎 𐳏 𐳐 𐳑 𐳒 𐳓 𐳔 𐳕 𐳖 𐳗 𐳘 𐳙 𐳚 𐳛 𐳜 𐳝 𐳞 𐳟 𐳠 𐳡 𐳢 𐳣 𐳤 𐳥 𐳦",
  .read 0x10CA7 1 "𐳧 𐳨 𐳩 𐳪 𐳫 𐳬 𐳭 𐳮 𐳯 𐳰 𐳱 𐳲",
  .read 0x10D50 1 "𐵰 𐵱 𐵲 𐵳 𐵴 𐵵 𐵶 𐵷 𐵸 𐵹 𐵺 𐵻 𐵼 𐵽 𐵾 𐵿 𐶀 𐶁 𐶂 𐶃 𐶄 𐶅",
  .read 0x118A0 1 "𑣀 𑣁 𑣂 𑣃 𑣄 𑣅 𑣆 𑣇 𑣈 𑣉 𑣊 𑣋 𑣌 𑣍 𑣎 𑣏 𑣐 𑣑 𑣒 𑣓 𑣔 𑣕 𑣖 𑣗 𑣘 𑣙 𑣚 𑣛 𑣜 𑣝 𑣞 𑣟",
  .read 0x16E40 1 "𖹠 𖹡 𖹢 𖹣 𖹤 𖹥 𖹦 𖹧 𖹨 𖹩 𖹪 𖹫 𖹬 𖹭 𖹮 𖹯 𖹰 𖹱 𖹲 𖹳 𖹴 𖹵 𖹶 𖹷 𖹸 𖹹 𖹺 𖹻 𖹼 𖹽 𖹾 𖹿",
  .read 0x16EA0 1 "𖺻 𖺼 𖺽 𖺾 𖺿 𖻀 𖻁 𖻂 𖻃 𖻄 𖻅 𖻆 𖻇 𖻈 𖻉 𖻊 𖻋 𖻌 𖻍 𖻎 𖻏 𖻐 𖻑 𖻒 𖻓",
  .read 0x1CCD6 1 "a b c d e f g h i j k l m n o p q r s t u v w x y z 0 1 2 3 4 5 6 7 8 9",
  .read 0x1D400 1 "a b c d e f g h i j k l m n o p q r s t u v w x y z a b c d e f g h i j k l m",
  .read 0x1D427 1 "n o p q r s t u v w x y z a b c d e f g h i j k l m n o p q r s t u v w x y z",
  .read 0x1D44E 1 "a b c d e f g",
  .read 0x1D456 1 "i j k l m n o p q r s t u v w x y z a b c d e f g h i j k l m n o p q r s t u",
  .read 0x1D47D 1 "v w x y z a b c d e f g h i j k l m n o p q r s t u v w x y z a",
  .read 0x1D49E 1 "c d",
  .read 0x1D4A2 1 "g",
  .read 0x1D4A5 1 "j k",
  .read 0x1D4A9 1 "n o p q",
  .read 0x1D4AE 1 "s t u v w x y z a b c d",
  .read 0x1D4BB 1 "f",
  .read 0x1D4BD 1 "h i j k l m n",
  .read 0x1D4C5 1 "p q r s t u v w x y z a b c d e f g h i j k l m n o p q r s t u v w x y z a b",
  .read 0x1D4EC 1 "c d e f g h i j k l m n o p q r s t u v w x y z a b",
  .read 0x1D507 1 "d e f g",
  .read 0x1D50D 1 "j k l m n o p q",
  .read 0x1D516 1 "s t u v w x y",
  .read 0x1D51E 1 "a b c d e f g h i j k l m n o p q r s t u v w x y z a b",
  .read 0x1D53B 1 "d e f g",
  .read 0x1D540 1 "i j k l m",
  .read 0x1D546 1 "o",
  .read 0x1D54A 1 "s t u v w x y",
  .read 0x1D552 1 "a b c d e f g h i j k l m n o p q r s t u v w x y z a b c d e f g h i j k l m",
  .read 0x1D579 1 "n o p q r s t u v w x y z a b c d e f g h i j k l m n o p q r s t u v w x y z",
  .read 0x1D5A0 1 "a b c d e f g h i j k l m n o p q r s t u v w x y z a b c d e f g h i j k l m",
  .read 0x1D5C7 1 "n o p q r s t u v w x y z a b c d e f g h i j k l m n o p q r s t u v w x y z",
  .read 0x1D5EE 1 "a b c d e f g h i j k l m n o p q r s t u v w x y z a b c d e f g h i j k l m",
  .read 0x1D615 1 "n o p q r s t u v w x y z a b c d e f g h i j k l m n o p q r s t u v w x y z",
  .read 0x1D63C 1 "a b c d e f g h i j k l m n o p q r s t u v w x y z a b c d e f g h i j k l m",
  .read 0x1D663 1 "n o p q r s t u v w x y z a b c d e f g h i j k l m n o p q r s t u v w x y z",
  .read 0x1D68A 1 "a b c d e f g h i j k l m n o p q r s t u v w x y z ı ȷ",
  .read 0x1D6A8 1 "α β γ δ ε ζ η θ ι κ λ μ ν ξ ο π ρ θ σ τ υ φ χ ψ ω ∇ α β γ δ ε ζ η θ ι κ λ μ ν",
  .read 0x1D6CF 1 "ξ ο π ρ σ σ τ υ φ χ ψ ω ∂ ε θ κ φ ρ π α β γ δ ε ζ η θ ι κ λ μ ν ξ ο π ρ θ σ τ",
  .read 0x1D6F6 1 "υ φ χ ψ ω ∇ α β γ δ ε ζ η θ ι κ λ μ ν ξ ο π ρ σ σ τ υ φ χ ψ ω ∂ ε θ κ φ ρ π α",
  .read 0x1D71D 1 "β γ δ ε ζ η θ ι κ λ μ ν ξ ο π ρ θ σ τ υ φ χ ψ ω ∇ α β γ δ ε ζ η θ ι κ λ μ ν ξ",
  .read 0x1D744 1 "ο π ρ σ σ τ υ φ χ ψ ω ∂ ε θ κ φ ρ π α β γ δ ε ζ η θ ι κ λ μ ν ξ ο π ρ θ σ τ υ",
  .read 0x1D76B 1 "φ χ ψ ω ∇ α β γ δ ε ζ η θ ι κ λ μ ν ξ ο π ρ σ σ τ υ φ χ ψ ω ∂ ε θ κ φ ρ π α β",
  .read 0x1D792 1 "γ δ ε ζ η θ ι κ λ μ ν ξ ο π ρ θ σ τ υ φ χ ψ ω ∇ α β γ δ ε ζ η θ ι κ λ μ ν ξ ο",
  .read 0x1D7B9 1 "π ρ σ σ τ υ φ χ ψ ω ∂ ε θ κ φ ρ π ϝ ϝ",
  .read 0x1D7CE 1 "0 1 2 3 4 5 6 7 8 9 0 1 2 3 4 5 6 7 8 9 0 1 2 3 4 5 6 7 8 9 0 1 2 3 4 5 6 7 8",
  .read 0x1D7F5 1 "9 0 1 2 3 4 5 6 7 8 9",
  .read 0x1E030 1 "а б в г д е ж з и к л м о п р с т у ф х ц ч ш ы э ю ꚉ ә і ј ө ү ӏ а б в г д е",
  .read 0x1E057 1 "ж з и к л о п с у ф х ц ч ш ъ ы ґ і ѕ џ ҫ ꙑ ұ",
  .read 0x1E900 1 "𞤢 𞤣 𞤤 𞤥 𞤦 𞤧 𞤨 𞤩 𞤪 𞤫 𞤬 𞤭 𞤮 𞤯 𞤰 𞤱 𞤲 𞤳 𞤴 𞤵 𞤶 𞤷 𞤸 𞤹 𞤺 𞤻 𞤼 𞤽 𞤾 𞤿 𞥀 𞥁 𞥂 𞥃",
  .read 0x1EE00 1 "ا ب ج د",
  .read 0x1EE05 1 "و ز ح ط ي ك ل م ن س ع ف ص ق ر ش ت ث خ ذ ض ظ غ ٮ ں ڡ ٯ",
  .read 0x1EE21 1 "ب ج",
  .read 0x1EE24 1 "ه",
  .read 0x1EE27 1 "ح",
  .read 0x1EE29 1 "ي ك ل م ن س ع ف ص ق",
  .read 0x1EE34 1 "ش ت ث خ",
  .read 0x1EE39 1 "ض",
  .read 0x1EE3B 1 "غ",
  .read 0x1EE42 1 "ج",
  .read 0x1EE47 2 "ح ي ل",
  .read 0x1EE4D 1 "ن س ع",
  .read 0x1EE51 1 "ص ق",
  .read 0x1EE54 1 "ش",
  .read 0x1EE57 2 "خ ض غ ں ٯ",
  .read 0x1EE61 1 "ب ج",
  .read 0x1EE64 1 "ه",
  .read 0x1EE67 1 "ح ط ي ك",
  .read 0x1EE6C 1 "م ن س ع ف ص ق",
  .read 0x1EE74 1 "ش ت ث خ",
  .read 0x1EE79 1 "ض ظ غ ٮ",
  .read 0x1EE7E 1 "ڡ",
  .read 0x1EE80 1 "ا ب ج د ه و ز ح ط ي",
  .read 0x1EE8B 1 "ل م ن س ع ف ص ق ر ش ت ث خ ذ ض ظ غ",
  .read 0x1EEA1 1 "ب ج د",
  .read 0x1EEA5 1 "و ز ح ط ي",
  .read 0x1EEAB 1 "ل م ن س ع ف ص ق ر ش ت ث خ ذ ض ظ غ",
  .read 0x1F101 1 "0, 1, 2, 3, 4, 5, 6, 7, 8, 9,",
  .read 0x1F110 1 "(a) (b) (c) (d) (e) (f) (g) (h) (i) (j) (k) (l) (m) (n) (o) (p) (q) (r) (s)",
  .read 0x1F123 1 "(t) (u) (v) (w) (x) (y) (z) 〔s〕 c r cd wz 🄯 a b c d e f g h i j k l m n o p q",
  .read 0x1F141 1 "r s t u v w x y z hv mv sd ss ppv wc",
  .read 0x1F16A 1 "mc md mr",
  .read 0x1F190 1 "dj",
  .read 0x1F200 1 "ほか ココ サ",
  .read 0x1F210 1 "手 字 双 デ 二 多 解 天 交 映 無 料 前 後 再 新 初 終 生 販 声 吹 演 投 捕 一 三 遊 左 中 右 指 走 打 禁 空 合 満 有",
  .read 0x1F237 1 "月 申 割 営 配",
  .read 0x1F240 1 "〔本〕 〔三〕 〔二〕 〔安〕 〔点〕 〔打〕 〔盗〕 〔勝〕 〔敗〕",
  .read 0x1F250 1 "得 可",
  .read 0x1FBF0 1 "0 1 2 3 4 5 6 7 8 9"]

/-- The signs that keep letters apart or together, and count only among certain
neighbours. -/
def isJoiner (character : Char) : Bool :=
  character.toNat == 0x200C || character.toNat == 0x200D

/-- What a character that does not split is folded to, if a name may hold it. -/
def image? (character : Char) : Option (List Char) :=
  let code := character.toNat
  if code < 128 then some [character.toLower]
  else if within ignored code then some []
  else if within refused code || (Printable.isHidden character && !isJoiner character) then none
  else some ((Images.image? foldings code).getD [character])

/-- The folded form of a name, if a name may hold all its characters. -/
def fold? (name : List Char) : Option (List Char) :=
  ((name.flatMap Normal.split).mapM image?).map fun images => Normal.compose images.flatten

end RingCache.Folding
