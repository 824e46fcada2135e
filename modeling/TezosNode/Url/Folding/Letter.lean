import TezosNode.Url.Folding.Row

namespace TezosNode.Url

def latinRows : List Row :=
  [⟨0xAA, "a"⟩, ⟨0xB2, "2 3"⟩, ⟨0xB5, "μ"⟩, ⟨0xB9, "1 o » 1⁄4 1⁄2 3⁄4"⟩, ⟨0xD9, "ù ú û ü ý"⟩,
   ⟨0x130, "i̇ ı ij ij ĵ ĵ ķ ķ ĸ ĺ ĺ ļ ļ ľ ľ l· l·"⟩, ⟨0x149, "ʼn"⟩,
   ⟨0x178, "ÿ ź ź ż ż ž ž s ƀ ɓ ƃ ƃ ƅ ƅ ɔ ƈ ƈ ɖ ɗ ƌ ƌ ƍ ǝ ə ɛ ƒ ƒ ɠ ɣ ƕ ɩ ɨ ƙ ƙ ƚ ƛ ɯ ɲ ƞ ɵ ơ ơ
     ƣ ƣ ƥ ƥ ʀ ƨ ƨ ʃ ƪ ƫ ƭ ƭ ʈ ư ư ʊ ʋ ƴ ƴ ƶ ƶ ʒ ƹ ƹ ƺ ƻ ƽ"⟩,
   ⟨0x1C4, "dž dž dž lj lj lj nj nj nj"⟩, ⟨0x1F1, "dz dz dz ǵ ǵ ƕ ƿ"⟩, ⟨0x220, "ƞ"⟩,
   ⟨0x23A, "ⱥ ȼ ȼ ƚ ⱦ ȿ ɀ ɂ ɂ ƀ ʉ ʌ"⟩, ⟨0x2B0, "h ɦ j r ɹ ɻ ʁ w y"⟩, ⟨0x2E0, "ɣ l s x ʕ"⟩,
   ⟨0x340, "\u0300 \u0301 \u0342 \u0313 \u0308́ ι"⟩, ⟨0x370, "ͱ ͱ ͳ ͳ ʹ ͵ ͷ"⟩, ⟨0x37E, "; ϳ"⟩,
   ⟨0x386, "ά · έ ή ί"⟩, ⟨0x38C, "ό"⟩, ⟨0x38E, "ύ ώ"⟩, ⟨0x3CF, "ϗ β θ υ ύ ϋ φ π"⟩,
   ⟨0x3F0, "κ ρ σ ϳ θ ε ϶ ϸ ϸ σ ϻ ϻ ϼ ͻ ͼ ͽ"⟩, ⟨0x4C0, "ӏ"⟩, ⟨0x1C80, "в д о с т т ъ ѣ ꙋ ᲊ"⟩,
   ⟨0x1D2C, "a æ b ᴯ d e ǝ"⟩,
   ⟨0x1D3C, "o ȣ p r t u w a ɐ ɑ ᴂ b d e ə ɛ ɜ g ᵎ k m ŋ o ɔ ᴖ ᴗ p t u ᴝ ɯ v ᴥ β γ δ φ χ i r u v
     β γ ρ φ χ"⟩,
   ⟨0x1D78, "н"⟩, ⟨0x1D9B, "ɒ c ɕ ð ɜ f ɟ ɡ ɥ ɨ ɩ ɪ ᵻ ʝ ɭ ᶅ ʟ ɱ ɰ"⟩,
   ⟨0x1DB2, "ɸ ʂ ʃ ƫ ʉ ʊ ᴜ ʋ ʌ z ʐ ʑ ʒ θ"⟩, ⟨0x1E9A, "aʾ ṡ ẜ ẝ ß"⟩,
   ⟨0x1F71, "ά ὲ έ ὴ ή ὶ ί ὸ ό ὺ ύ ὼ ώ"⟩,
   ⟨0x1F80, "ἀι ἁι ἂι ἃι ἄι ἅι ἆι ἇι ἀι ἁι ἂι ἃι ἄι ἅι ἆι ἇι ἠι ἡι ἢι ἣι ἤι ἥι ἦι ἧι ἠι ἡι ἢι ἣι
     ἤι ἥι ἦι ἧι ὠι ὡι ὢι ὣι ὤι ὥι ὦι ὧι ὠι ὡι ὢι ὣι ὤι ὥι ὦι ὧι ᾰ ᾱ ὰι αι άι"⟩,
   ⟨0x1FB7, "ᾶι ᾰ ᾱ ὰ ά αι"⟩, ⟨0x1FBE, "ι"⟩, ⟨0x1FC2, "ὴι ηι ήι"⟩, ⟨0x1FC7, "ῆι ὲ έ ὴ ή ηι"⟩,
   ⟨0x1FD3, "ΐ"⟩, ⟨0x1FD8, "ῐ ῑ ὶ ί"⟩, ⟨0x1FE3, "ΰ"⟩, ⟨0x1FE8, "ῠ ῡ ὺ ύ ῥ"⟩, ⟨0x1FEF, "\x60"⟩,
   ⟨0x1FF2, "ὼι ωι ώι"⟩, ⟨0x1FF7, "ῶι ὸ ό ὼ ώ ωι"⟩,
   ⟨0x2C60, "ⱡ ⱡ ɫ ᵽ ɽ ⱥ ⱦ ⱨ ⱨ ⱪ ⱪ ⱬ ⱬ ɑ ɱ ɐ ɒ ⱱ ⱳ ⱳ ⱴ ⱶ"⟩, ⟨0x2C7C, "j v ȿ ɀ"⟩,
   ⟨0x2CEB, "ⳬ ⳬ ⳮ"⟩, ⟨0x2CF2, "ⳳ"⟩, ⟨0xA69C, "ъ ь"⟩, ⟨0xA770, "ꝯ"⟩, ⟨0xA779, "ꝺ ꝺ ꝼ ꝼ ᵹ"⟩,
   ⟨0xA78B, "ꞌ ꞌ ɥ ꞎ ꞏ ꞑ ꞑ ꞓ"⟩, ⟨0xA7AA, "ɦ ɜ ɡ ɬ ɪ ꞯ ʞ ʇ ʝ ꭓ"⟩, ⟨0xA7C4, "ꞔ ʂ ᶎ ꟈ ꟈ ꟊ ꟊ ɤ"⟩,
   ⟨0xA7DC, "ƛ"⟩, ⟨0xA7F1, "s c f q ꟶ ꟶ ꟷ ħ œ"⟩, ⟨0xAB5C, "ꜧ ꬷ ɫ ꭒ"⟩, ⟨0xAB69, "ʍ"⟩,
   ⟨0xFB00, "ff fi fl ffi ffl st st"⟩, ⟨0x10781, "ː ˑ æ ʙ ɓ"⟩,
   ⟨0x10787, "ʣ ꭦ ʥ ʤ ɖ ɗ ᶑ ɘ ɞ ʩ ɤ ɢ ɠ ʛ ħ ʜ ɧ ʄ ʪ ʫ ɬ 𝼄 ꞎ ɮ 𝼅 ʎ 𝼆 ø ɶ ɷ q ɺ 𝼈 ɽ ɾ ʀ ʨ ʦ ꭧ ʧ ʈ
     ⱱ"⟩,
   ⟨0x107B2, "ʏ ʡ ʢ ʘ ǀ ǁ ǂ 𝼊 𝼞"⟩, ⟨0x1E039, "к л м"⟩, ⟨0x1E047, "ы э ю ꚉ ә і ј ө ү ӏ"⟩,
   ⟨0x1E05A, "к л о п с"⟩, ⟨0x1E065, "ъ ы ґ і ѕ џ ҫ ꙑ ұ"⟩]

def scriptRows : List Row :=
  [⟨0x587, "եւ"⟩, ⟨0x958, "क़ ख़ ग़ ज़ ड़ ढ़ फ़ य़"⟩, ⟨0x9DC, "ড় ঢ়"⟩, ⟨0x9DF, "য়"⟩,
   ⟨0xA33, "ਲ਼"⟩, ⟨0xA36, "ਸ਼"⟩, ⟨0xA59, "ਖ਼ ਗ਼ ਜ਼"⟩, ⟨0xA5E, "ਫ਼"⟩, ⟨0xB5C, "ଡ଼ ଢ଼"⟩,
   ⟨0xE33, "\u0e4dา"⟩, ⟨0xEB3, "\u0ecdາ"⟩, ⟨0xEDC, "ຫນ ຫມ"⟩, ⟨0xF0C, "་"⟩, ⟨0xF43, "གྷ"⟩,
   ⟨0xF4D, "ཌྷ"⟩, ⟨0xF52, "དྷ"⟩, ⟨0xF57, "བྷ"⟩, ⟨0xF5C, "ཛྷ"⟩, ⟨0xF69, "ཀྵ"⟩,
   ⟨0xF73, "\u0f71ི \u0f74 \u0f71ུ \u0fb2ྀ \u0fb2ཱྀ \u0fb3ྀ \u0fb3ཱྀ"⟩, ⟨0xF81, "\u0f71ྀ"⟩,
   ⟨0xF93, "\u0f92ྷ"⟩, ⟨0xF9D, "\u0f9cྷ"⟩, ⟨0xFA2, "\u0fa1ྷ"⟩, ⟨0xFA7, "\u0fa6ྷ"⟩,
   ⟨0xFAC, "\u0fabྷ"⟩, ⟨0xFB9, "\u0f90ྵ"⟩, ⟨0x10C7, "ⴧ"⟩, ⟨0x10CD, "ⴭ"⟩, ⟨0x10FC, "ნ"⟩,
   ⟨0x1CBD, "ჽ ჾ ჿ"⟩, ⟨0x2D6F, "ⵡ"⟩, ⟨0xFB13, "մն մե մի վն մխ"⟩, ⟨0x1058D, "𐖴 𐖵 𐖶 𐖷 𐖸"⟩,
   ⟨0x10595, "𐖼"⟩, ⟨0x1D15E, "𝅗𝅥 𝅘𝅥 𝅘𝅥𝅮 𝅘𝅥𝅯 𝅘𝅥𝅰 𝅘𝅥𝅱 𝅘𝅥𝅲"⟩, ⟨0x1D1BB, "𝆹𝅥 𝆺𝅥 𝆹𝅥𝅮 𝆺𝅥𝅮 𝆹𝅥𝅯 𝆺𝅥𝅯"⟩]

end TezosNode.Url
