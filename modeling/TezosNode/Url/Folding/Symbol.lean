import TezosNode.Url.Folding.Row

namespace TezosNode.Url

def signRows : List Row :=
  [⟨0x2011, "‐"⟩, ⟨0x2033, "′′ ′′′ ‵ ‵‵ ‵‵‵"⟩, ⟨0x203C, "!!"⟩, ⟨0x2057, "′′′′"⟩, ⟨0x2070, "0 i"⟩,
   ⟨0x207A, "+ − = ( ) n"⟩, ⟨0x208A, "+ − = ( )"⟩, ⟨0x2090, "a e o x ə h"⟩, ⟨0x209A, "p s t"⟩,
   ⟨0x20A8, "rs"⟩, ⟨0x2102, "c °c"⟩,
   ⟨0x2107, "ɛ ℈ °f g h h h h ħ i i l l ℔ n no ℗ ℘ p q r r r ℞ ℟ sm tel tm ℣ z ℥ ω ℧ z ℩ k å b c
     ℮ e e f ⅎ m o"⟩,
   ⟨0x2139, "i ℺ fax π γ γ π ∑"⟩, ⟨0x2145, "d d e i j"⟩,
   ⟨0x2150, "1⁄7 1⁄9 1⁄10 1⁄3 2⁄3 1⁄5 2⁄5 3⁄5 4⁄5 1⁄6 5⁄6 1⁄8 3⁄8 5⁄8 7⁄8 1⁄ i ii iii iv v vi
     vii viii ix x xi xii l c d m i ii iii iv v vi vii viii ix x xi xii l c d m ↀ ↁ ↂ ↄ"⟩,
   ⟨0x2189, "0⁄3"⟩, ⟨0x222C, "∫∫ ∫∫∫ ∮ ∮∮ ∮∮∮"⟩, ⟨0x2329, "〈 〉"⟩,
   ⟨0x2469, "10 11 12 13 14 15 16 17 18 19 20 (1) (2) (3) (4) (5) (6) (7) (8) (9) (10) (11) (12)
     (13) (14) (15) (16) (17) (18) (19) (20)"⟩,
   ⟨0x249C, "(a) (b) (c) (d) (e) (f) (g) (h) (i) (j) (k) (l) (m) (n) (o) (p) (q) (r) (s) (t) (u)
     (v) (w) (x) (y) (z)"⟩,
   ⟨0x24EA, "0"⟩, ⟨0x2A0C, "∫∫∫∫"⟩, ⟨0x2A75, "== ==="⟩, ⟨0x2ADC, "⫝̸"⟩, ⟨0x3002, "."⟩,
   ⟨0x3036, "〒 〷 十 卄 卅"⟩, ⟨0x309F, "より"⟩, ⟨0x30FF, "コト"⟩, ⟨0xFE10, ", 、"⟩, ⟨0xFE14, "; !"⟩,
   ⟨0xFE17, "〖 〗"⟩, ⟨0xFE31, "— – _ _ ( ) \x7b \x7d 〔 〕 【 】 《 》 〈 〉"⟩, ⟨0xFE4D, "_ _ _ , 、"⟩,
   ⟨0xFE54, ";"⟩, ⟨0xFE57, "! — ( ) \x7b \x7d 〔 〕"⟩, ⟨0xFE60, "& * + -"⟩, ⟨0xFE66, "="⟩,
   ⟨0xFE69, "$"⟩,
   ⟨0xFF5F, "⦅ ⦆ . 「 」 、 ・ ヲ ァ ィ ゥ ェ ォ ャ ュ ョ ッ ー ア イ ウ エ オ カ キ ク ケ コ サ シ ス セ ソ タ チ ツ テ ト"⟩,
   ⟨0xFF8B, "ヒ フ ヘ ホ"⟩, ⟨0xFF94, "ヤ ユ"⟩, ⟨0xFF9C, "ワ ン \u3099 \u309a"⟩,
   ⟨0xFFA1, "ᄀ ᄁ ᆪ ᄂ ᆬ ᆭ ᄃ ᄄ ᄅ"⟩, ⟨0xFFB0, "ᄚ ᄆ ᄇ ᄈ ᄡ"⟩, ⟨0xFFDA, "ᅳ ᅴ ᅵ"⟩, ⟨0xFFE0, "¢ £ ¬"⟩,
   ⟨0xFFE4, "¦ ¥ ₩"⟩, ⟨0xFFE8, "│"⟩, ⟨0xFFED, "■ ○"⟩]

def mathRows : List Row :=
  [⟨0x1D44F, "b c d e f"⟩, ⟨0x1D49C, "a"⟩, ⟨0x1D49E, "c d"⟩, ⟨0x1D4A2, "g"⟩, ⟨0x1D4A5, "j k"⟩,
   ⟨0x1D4B6, "a b c"⟩, ⟨0x1D4BE, "i j k l m"⟩, ⟨0x1D504, "a b"⟩, ⟨0x1D517, "t u v w x"⟩,
   ⟨0x1D538, "a b"⟩, ⟨0x1D53B, "d e f"⟩, ⟨0x1D541, "j k l"⟩, ⟨0x1D6A4, "ı ȷ"⟩,
   ⟨0x1D6B9, "θ σ τ υ φ χ ψ ω ∇"⟩, ⟨0x1D6D3, "σ σ τ υ φ χ ψ ω ∂ ε θ κ φ ρ π"⟩,
   ⟨0x1D6F3, "θ σ τ υ φ χ ψ ω ∇"⟩, ⟨0x1D70D, "σ σ τ υ φ χ ψ ω ∂ ε θ κ φ ρ π"⟩,
   ⟨0x1D72D, "θ σ τ υ φ χ ψ ω ∇"⟩, ⟨0x1D747, "σ σ τ υ φ χ ψ ω ∂ ε θ κ φ ρ π"⟩,
   ⟨0x1D767, "θ σ τ υ φ χ ψ ω ∇"⟩, ⟨0x1D781, "σ σ τ υ φ χ ψ ω ∂ ε θ κ φ ρ π"⟩,
   ⟨0x1D7A1, "θ σ τ υ φ χ ψ ω ∇"⟩, ⟨0x1D7BB, "σ σ τ υ φ χ ψ ω ∂ ε θ κ φ ρ π ϝ ϝ"⟩,
   ⟨0x1F101, "0, 1, 2, 3, 4, 5, 6, 7, 8, 9,"⟩,
   ⟨0x1F110, "(a) (b) (c) (d) (e) (f) (g) (h) (i) (j) (k) (l) (m) (n) (o) (p) (q) (r) (s) (t)
     (u) (v) (w) (x) (y) (z) 〔s〕 c r cd wz"⟩,
   ⟨0x1F14A, "hv mv sd ss ppv wc"⟩, ⟨0x1F16A, "mc md mr"⟩, ⟨0x1F190, "dj"⟩]

end TezosNode.Url
