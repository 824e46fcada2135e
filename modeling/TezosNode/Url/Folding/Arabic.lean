import TezosNode.Url.Folding.Row

namespace TezosNode.Url

def semiticRows : List Row :=
  [⟨0x675, "اٴ وٴ ۇٴ يٴ"⟩,
   ⟨0xFB1D, "יִ \ufb1e ײַ ע א ד ה כ ל ם ר ת + שׁ שׂ שּׁ שּׂ אַ אָ אּ בּ גּ דּ הּ וּ זּ"⟩,
   ⟨0xFB38, "טּ יּ ךּ כּ לּ"⟩, ⟨0xFB3E, "מּ"⟩, ⟨0xFB40, "נּ סּ"⟩, ⟨0xFB43, "ףּ פּ"⟩,
   ⟨0xFB46, "צּ קּ רּ שּ תּ וֹ בֿ כֿ פֿ אל ٱ ٱ ٻ ٻ ٻ ٻ پ پ پ پ ڀ ڀ ڀ ڀ ٺ ٺ ٺ ٺ ٿ ٿ ٿ ٿ ٹ ٹ ٹ ٹ ڤ
     ڤ ڤ ڤ ڦ ڦ ڦ ڦ ڄ ڄ ڄ ڄ ڃ ڃ ڃ ڃ چ چ چ چ ڇ ڇ ڇ ڇ ڍ ڍ ڌ ڌ ڎ ڎ ڈ ڈ ژ ژ ڑ ڑ ک ک ک ک گ گ گ گ ڳ ڳ ڳ
     ڳ ڱ ڱ ڱ ڱ ں ں ڻ ڻ ڻ ڻ ۀ ۀ ہ ہ ہ ہ ھ ھ ھ ھ ے ے ۓ ۓ"⟩,
   ⟨0xFBD3, "ڭ ڭ ڭ ڭ ۇ ۇ ۆ ۆ ۈ ۈ ۇٴ ۋ ۋ ۅ ۅ ۉ ۉ ې ې ې ې ى ى ئا ئا ئە ئە ئو ئو ئۇ ئۇ ئۆ ئۆ ئۈ ئۈ
     ئې ئې ئې ئى ئى ئى ی ی ی ی ئج ئح ئم ئى ئي بج بح بخ بم بى بي تج تح تخ تم تى تي ثج ثم ثى ثي جح
     جم حج حم خج خح خم سج سح سخ سم صح صم ضج ضح ضخ ضم طح طم ظم عج عم غج غم فج فح فخ فم فى في قح
     قم قى قي كا كج كح كخ كل كم كى كي لج لح لخ لم لى لي مج مح مخ مم مى مي نج نح نخ نم نى ني هج
     هم هى هي يج يح يخ يم يى يي ذٰ رٰ ىٰ"⟩,
   ⟨0xFC64, "ئر ئز ئم ئن ئى ئي بر بز بم بن بى بي تر تز تم تن تى تي ثر ثز ثم ثن ثى ثي فى في قى قي
     كا كل كم كى كي لم لى لي ما مم نر نز نم نن نى ني ىٰ ير يز يم ين يى يي ئج ئح ئخ ئم ئه بج بح
     بخ بم به تج تح تخ تم ته ثم جح جم حج حم خج خم سج سح سخ سم صح صخ صم ضج ضح ضخ ضم طح ظم عج عم
     غج غم فج فح فخ فم قح قم كج كح كخ كل كم لج لح لخ لم له مج مح مخ مم نج نح نخ نم نه هج هم هٰ
     يج يح يخ يم يه ئم ئه بم به تم ته ثم ثه سم سه شم شه كل كم لم نم نه يم يه ـَّ ـُّ ـِّ طى طي
     عى عي غى غي سى سي شى شي حى حي جى جي خى خي صى صي ضى ضي شج شح شخ شم شر سر صر ضر طى طي عى عي
     غى غي سى سي شى شي حى حي جى جي خى خي صى صي ضى ضي شج شح شخ شم شر سر صر ضر شج شح شخ شم سه شه
     طم سج سح سخ شج شح شخ طم ظم اً اً"⟩,
   ⟨0xFD50, "تجم تحج تحج تحم تخم تمج تمح تمخ جمح جمح حمي حمى سحج سجح سجى سمح سمح سمج سمم سمم صحح
     صحح صمم شحم شحم شجي شمخ شمخ شمم شمم ضحى ضخم ضخم طمح طمح طمم طمي عجم عمم عمم عمى غمم غمي غمى
     فخم فخم قمح قمم لحم لحي لحى لجج لجج لخم لخم لمح لمح محج محم محي مجح مجم مخج مخم ﶐ ﶑ مجخ همج
     همم نحم نحى نجم نجم نجى نمي نمى يمم يمم بخي تجي تجى تخي تخى تمي تمى جمي جحى جمى سخى صحي شحي
     ضحي لجي لمي يحي يجي يمي ممي قمي نحي قمح لحم عمي كمي نجح مخي لجم كمم لجم نجح جحي حجي مجي فمي
     بحي كمم عجم صمم سخي نجي"⟩,
   ⟨0xFDF0, "صلے قلے الله اكبر محمد صلعم رسول عليه وسلم صلى"⟩, ⟨0xFDFC, "ریال"⟩, ⟨0xFE71, "ـً"⟩,
   ⟨0xFE77, "ـَ"⟩, ⟨0xFE79, "ـُ"⟩, ⟨0xFE7B, "ـِ"⟩, ⟨0xFE7D, "ـّ"⟩,
   ⟨0xFE7F, "ـْ ء آ آ أ أ ؤ ؤ إ إ ئ ئ ئ ئ ا ا ب ب ب ب ة ة ت ت ت ت ث ث ث ث ج ج ج ج ح ح ح ح خ خ خ
     خ د د ذ ذ ر ر ز ز س س س س ش ش ش ش ص ص ص ص ض ض ض ض ط ط ط ط ظ ظ ظ ظ ع ع ع ع غ غ غ غ ف ف ف ف ق
     ق ق ق ك ك ك ك ل ل ل ل م م م م ن ن ن ن ه ه ه ه و و ى ى ي ي ي ي لآ لآ لأ لأ لإ لإ لا لا"⟩]

def arabicSignRows : List Row :=
  [⟨0x1EE00, "ا ب ج د"⟩, ⟨0x1EE05, "و ز ح ط ي"⟩, ⟨0x1EE0E, "س ع ف ص ق ر ش ت ث خ ذ ض ظ غ ٮ ں ڡ ٯ"⟩,
   ⟨0x1EE21, "ب ج"⟩, ⟨0x1EE24, "ه"⟩, ⟨0x1EE27, "ح"⟩, ⟨0x1EE29, "ي"⟩, ⟨0x1EE2E, "س ع ف ص ق"⟩,
   ⟨0x1EE34, "ش ت ث خ"⟩, ⟨0x1EE39, "ض"⟩, ⟨0x1EE3B, "غ"⟩, ⟨0x1EE42, "ج"⟩, ⟨0x1EE47, "ح"⟩,
   ⟨0x1EE49, "ي"⟩, ⟨0x1EE4B, "ل"⟩, ⟨0x1EE4D, "ن س ع"⟩, ⟨0x1EE51, "ص ق"⟩, ⟨0x1EE54, "ش"⟩,
   ⟨0x1EE57, "خ"⟩, ⟨0x1EE59, "ض"⟩, ⟨0x1EE5B, "غ"⟩, ⟨0x1EE5D, "ں"⟩, ⟨0x1EE5F, "ٯ"⟩,
   ⟨0x1EE61, "ب ج"⟩, ⟨0x1EE64, "ه"⟩, ⟨0x1EE67, "ح ط ي ك"⟩, ⟨0x1EE6C, "م ن س ع ف ص ق"⟩,
   ⟨0x1EE74, "ش ت ث خ"⟩, ⟨0x1EE79, "ض ظ غ ٮ"⟩, ⟨0x1EE7E, "ڡ"⟩, ⟨0x1EE80, "ا ب ج د ه و ز ح ط ي"⟩,
   ⟨0x1EE8B, "ل م ن س ع ف ص ق ر ش ت ث خ ذ ض ظ غ"⟩, ⟨0x1EEA1, "ب ج د"⟩, ⟨0x1EEA5, "و ز ح ط ي"⟩,
   ⟨0x1EEAB, "ل م ن س ع ف ص ق ر ش ت ث خ ذ ض ظ غ"⟩]

end TezosNode.Url
