import IntentPolicy.Text.LowerCase

namespace IntentPolicy

/-!
# What characters of domains are taken for

A domain is written in lower case, with one character for all forms of a letter.  What is
taken for something else than its lower case is listed: characters that are shifted by
one distance, and stretches of neighbours, each with what it is taken for.
-/

namespace Domain

/-- Characters that are taken for others at one distance. -/
def shiftedLetters : List CodeShift :=
  [ ⟨0x13A0, 0x13F5, 1, 0⟩, ⟨0x2080, 0x2089, 1, (-8272)⟩, ⟨0x24B6, 0x24CF, 1, (-9301)⟩,
    ⟨0x24D0, 0x24E9, 1, (-9327)⟩, ⟨0x3145, 0x314E, 1, (-8252)⟩, ⟨0x314F, 0x3163, 1, (-8174)⟩,
    ⟨0xAB70, 0xABBF, 1, (-38864)⟩, ⟨0xFF01, 0xFF20, 1, (-65248)⟩, ⟨0xFF21, 0xFF3A, 1, (-65216)⟩,
    ⟨0xFF3B, 0xFF5E, 1, (-65248)⟩, ⟨0xFFB5, 0xFFBE, 1, (-61100)⟩,
    ⟨0x1CCD6, 0x1CCEF, 1, (-117877)⟩, ⟨0x1CCF0, 0x1CCF9, 1, (-117952)⟩,
    ⟨0x1D400, 0x1D419, 1, (-119711)⟩, ⟨0x1D41A, 0x1D433, 1, (-119737)⟩,
    ⟨0x1D434, 0x1D44D, 1, (-119763)⟩, ⟨0x1D456, 0x1D467, 1, (-119789)⟩,
    ⟨0x1D468, 0x1D481, 1, (-119815)⟩, ⟨0x1D482, 0x1D49B, 1, (-119841)⟩,
    ⟨0x1D4C5, 0x1D4CF, 1, (-119893)⟩, ⟨0x1D4D0, 0x1D4E9, 1, (-119919)⟩,
    ⟨0x1D4EA, 0x1D503, 1, (-119945)⟩, ⟨0x1D51E, 0x1D537, 1, (-119997)⟩,
    ⟨0x1D552, 0x1D56B, 1, (-120049)⟩, ⟨0x1D56C, 0x1D585, 1, (-120075)⟩,
    ⟨0x1D586, 0x1D59F, 1, (-120101)⟩, ⟨0x1D5A0, 0x1D5B9, 1, (-120127)⟩,
    ⟨0x1D5BA, 0x1D5D3, 1, (-120153)⟩, ⟨0x1D5D4, 0x1D5ED, 1, (-120179)⟩,
    ⟨0x1D5EE, 0x1D607, 1, (-120205)⟩, ⟨0x1D608, 0x1D621, 1, (-120231)⟩,
    ⟨0x1D622, 0x1D63B, 1, (-120257)⟩, ⟨0x1D63C, 0x1D655, 1, (-120283)⟩,
    ⟨0x1D656, 0x1D66F, 1, (-120309)⟩, ⟨0x1D670, 0x1D689, 1, (-120335)⟩,
    ⟨0x1D68A, 0x1D6A3, 1, (-120361)⟩, ⟨0x1D6A8, 0x1D6B8, 1, (-119543)⟩,
    ⟨0x1D6C2, 0x1D6D2, 1, (-119569)⟩, ⟨0x1D6E2, 0x1D6F2, 1, (-119601)⟩,
    ⟨0x1D6FC, 0x1D70C, 1, (-119627)⟩, ⟨0x1D71C, 0x1D72C, 1, (-119659)⟩,
    ⟨0x1D736, 0x1D746, 1, (-119685)⟩, ⟨0x1D756, 0x1D766, 1, (-119717)⟩,
    ⟨0x1D770, 0x1D780, 1, (-119743)⟩, ⟨0x1D790, 0x1D7A0, 1, (-119775)⟩,
    ⟨0x1D7AA, 0x1D7BA, 1, (-119801)⟩, ⟨0x1D7CE, 0x1D7D7, 1, (-120734)⟩,
    ⟨0x1D7D8, 0x1D7E1, 1, (-120744)⟩, ⟨0x1D7E2, 0x1D7EB, 1, (-120754)⟩,
    ⟨0x1D7EC, 0x1D7F5, 1, (-120764)⟩, ⟨0x1D7F6, 0x1D7FF, 1, (-120774)⟩,
    ⟨0x1E03C, 0x1E046, 1, (-121854)⟩, ⟨0x1F130, 0x1F149, 1, (-127183)⟩,
    ⟨0x1FBF0, 0x1FBF9, 1, (-129984)⟩ ]

/-- A first code point, and what it and its neighbours are taken for. -/
structure Stretch where
  first : Nat
  replacements : String
  deriving Repr, DecidableEq

/-- Stretches in which every character is taken for one other. -/
def letterStretches : List Stretch :=
  [ ⟨0x00A0, " "⟩, ⟨0x017F, "s"⟩, ⟨0x02B0, "hɦjrɹɻʁwy"⟩, ⟨0x0374, "ʹ"⟩, ⟨0x0387, "·"⟩,
    ⟨0x03D0, "βθυύϋφπ"⟩, ⟨0x03F0, "κρσ"⟩, ⟨0x03F5, "ε"⟩, ⟨0x03F9, "σ"⟩, ⟨0x0F0C, "་"⟩,
    ⟨0x10FC, "ნ"⟩, ⟨0x13F8, "ᏰᏱᏲᏳᏴᏵ"⟩, ⟨0x1C80, "вдосттъѣꙋ"⟩,
    ⟨0x1D2C, "aæbᴯdeǝghijklmnᴻoȣprtuwaɐɑᴂbdeəɛɜgᵎkmŋoɔᴖᴗptuᴝɯvᴥβγδφχiruvβγρφχ"⟩, ⟨0x1D78, "н"⟩,
    ⟨0x1D9B, "ɒcɕðɜfɟɡɥɨɩɪᵻʝɭᶅʟɱɰɲɳɴɵɸʂʃƫʉʊᴜʋʌzʐʑʒθ"⟩, ⟨0x1F71, "άὲέὴήὶίὸόὺύὼώ"⟩, ⟨0x1FC9, "έ"⟩,
    ⟨0x1FDB, "ί"⟩, ⟨0x1FEB, "ύ"⟩, ⟨0x1FF9, "ό"⟩, ⟨0x2000, "           "⟩, ⟨0x2011, "‐"⟩,
    ⟨0x205F, " "⟩, ⟨0x2070, "0i"⟩, ⟨0x2074, "456789+−=()n"⟩, ⟨0x208A, "+−=()"⟩,
    ⟨0x2090, "aeoxəhklmnpst"⟩, ⟨0x210A, "ghhhhħiill℔n"⟩, ⟨0x2117, "℗℘pqrrr℞℟"⟩, ⟨0x2128, "z"⟩,
    ⟨0x212C, "bc℮eef"⟩, ⟨0x2133, "mo\u05d0\u05d1\u05d2\u05d3i℺"⟩, ⟨0x2145, "ddeij"⟩,
    ⟨0x2329, "〈〉"⟩, ⟨0x2460, "123456789"⟩, ⟨0x24EA, "0"⟩, ⟨0x2C7C, "jv"⟩, ⟨0x2D6F, "ⵡ"⟩,
    ⟨0x2E9F, "母"⟩, ⟨0x2EF3, "龟"⟩,
    ⟨0x2F00, "一丨丶丿乙亅二亠人儿入八冂冖冫几凵刀力勹匕匚匸十卜卩厂厶又口囗土士夂夊夕大女子宀寸小尢尸屮山巛工己巾干幺广廴廾弋弓彐彡彳心戈戶手支攴文斗斤方无日曰月木欠止歹殳毋"⟩,
    ⟨0x2F50, "比毛氏气水火爪父爻爿片牙牛犬玄玉瓜瓦甘生用田疋疒癶白皮皿目矛矢石示禸禾穴立竹米糸缶网羊羽老而耒耳聿肉臣自至臼舌舛舟艮色艸虍虫血行衣襾見角言谷豆豕豸貝赤走足身車辛"⟩,
    ⟨0x2FA0, "辰辵邑酉釆里金長門阜隶隹雨靑非面革韋韭音頁風飛食首香馬骨高髟鬥鬯鬲鬼魚鳥鹵鹿麥麻黃黍黑黹黽鼎鼓鼠鼻齊齒龍龜龠"⟩, ⟨0x3000, " 、."⟩,
    ⟨0x3036, "〒〷十卄卅"⟩,
    ⟨0x3131, "\u1100\u1101\u11aa\u1102\u11ac\u11ad\u1103\u1104\u1105\u11b0\u11b1\u11b2\u11b3"⟩,
    ⟨0x313E, "\u11b4\u11b5\u111a\u1106\u1107\u1108\u1121"⟩,
    ⟨0x3165, "\u1114\u1115\u11c7\u11c8\u11cc\u11ce\u11d3\u11d7\u11d9\u111c\u11dd\u11df\u111d"⟩,
    ⟨0x3172, "\u111e\u1120\u1122\u1123\u1127\u1129\u112b\u112c\u112d\u112e\u112f\u1132\u1136"⟩,
    ⟨0x317F, "\u1140\u1147\u114c\u11f1\u11f2\u1157\u1158\u1159\u1184\u1185\u1188\u1191\u1192"⟩,
    ⟨0x318C, "\u1194\u119e\u11a1"⟩, ⟨0x3192, "一二三四上中下甲乙丙丁天地人"⟩,
    ⟨0x3260, "\u1100\u1102\u1103\u1105\u1106\u1107\u1109\u110b\u110c\u110e\u110f\u1110\u1111"⟩,
    ⟨0x326D, "\u1112가나다라마바사아자차카타파하"⟩,
    ⟨0x327E, "우㉿一二三四五六七八九十月火水木金土日株有社名特財祝労秘男女適優印注項休写正上中下左右医宗学監企資協夜"⟩,
    ⟨0x32D0, "アイウエオカキクケコサシスセソタチツテトナニヌネノハヒフヘホマミムメモヤユヨラリルレロワヰヱヲ"⟩, ⟨0xA69C, "ъь"⟩, ⟨0xA770, "ꝯ"⟩,
    ⟨0xA7F1, "scfq"⟩, ⟨0xA7F8, "ħœ"⟩, ⟨0xAB5C, "ꜧꬷɫꭒ"⟩, ⟨0xAB69, "ʍ"⟩,
    ⟨0xF900, "豈更車賈滑串句龜龜契金喇奈懶癩羅蘿螺裸邏樂洛烙珞落酪駱亂卵欄爛蘭鸞嵐濫藍襤拉臘蠟廊朗浪狼郎來冷勞擄櫓爐盧老蘆虜路露魯鷺碌祿綠菉錄鹿論壟弄籠聾牢磊賂雷壘屢樓淚漏累"⟩,
    ⟨0xF950, "縷陋勒肋凜凌稜綾菱陵讀拏樂諾丹寧怒率異北磻便復不泌數索參塞省葉說殺辰沈拾若掠略亮兩凉梁糧良諒量勵呂女廬旅濾礪閭驪麗黎力曆歷轢年憐戀撚漣煉璉秊練聯輦蓮連鍊列劣咽烈"⟩,
    ⟨0xF9A0, "裂說廉念捻殮簾獵令囹寧嶺怜玲瑩羚聆鈴零靈領例禮醴隸惡了僚寮尿料樂燎療蓼遼龍暈阮劉杻柳流溜琉留硫紐類六戮陸倫崙淪輪律慄栗率隆利吏履易李梨泥理痢罹裏裡里離匿溺吝燐璘"⟩,
    ⟨0xF9F0, "藺隣鱗麟林淋臨立笠粒狀炙識什茶刺切度拓糖宅洞暴輻行降見廓兀嗀﨎﨏塚﨑晴﨓﨔凞猪益礼神祥福靖精羽﨟蘒﨡諸﨣﨤逸都﨧﨨﨩飯飼館鶴郞隷侮僧免勉勤卑喝嘆器塀墨層屮悔慨憎"⟩,
    ⟨0xFA40, "懲敏既暑梅海渚漢煮爫琢碑社祉祈祐祖祝禍禎穀突節練縉繁署者臭艹艹著褐視謁謹賓贈辶逸難響頻恵𤋮舘"⟩,
    ⟨0xFA70, "並况全侀充冀勇勺喝啕喙嗢塚墳奄奔婢嬨廒廙彩徭惘慎愈憎慠懲戴揄搜摒敖晴朗望杖歹殺流滛滋漢瀞煮瞧爵犯猪瑱甆画瘝瘟益盛直睊着磌窱節类絛練缾者荒華蝹襁覆視調諸請謁諾諭謹"⟩,
    ⟨0xFAC0, "變贈輸遲醙鉶陼難靖韛響頋頻鬒龜𢡊𢡄𣏕㮝䀘䀹𥉉𥳐𧻓齃龎"⟩,
    ⟨0xFB20, "\u05e2\u05d0\u05d3\u05d4\u05db\u05dc\u05dd\u05e8\u05ea+"⟩,
    ⟨0xFB50, "\u0671\u0671\u067b\u067b\u067b\u067b\u067e\u067e\u067e\u067e\u0680\u0680\u0680"⟩,
    ⟨0xFB5D, "\u0680\u067a\u067a\u067a\u067a\u067f\u067f\u067f\u067f\u0679\u0679\u0679\u0679"⟩,
    ⟨0xFB6A, "\u06a4\u06a4\u06a4\u06a4\u06a6\u06a6\u06a6\u06a6\u0684\u0684\u0684\u0684\u0683"⟩,
    ⟨0xFB77, "\u0683\u0683\u0683\u0686\u0686\u0686\u0686\u0687\u0687\u0687\u0687\u068d\u068d"⟩,
    ⟨0xFB84, "\u068c\u068c\u068e\u068e\u0688\u0688\u0698\u0698\u0691\u0691\u06a9\u06a9\u06a9"⟩,
    ⟨0xFB91, "\u06a9\u06af\u06af\u06af\u06af\u06b3\u06b3\u06b3\u06b3\u06b1\u06b1\u06b1\u06b1"⟩,
    ⟨0xFB9E, "\u06ba\u06ba\u06bb\u06bb\u06bb\u06bb\u06c0\u06c0\u06c1\u06c1\u06c1\u06c1\u06be"⟩,
    ⟨0xFBAB, "\u06be\u06be\u06be\u06d2\u06d2\u06d3\u06d3"⟩,
    ⟨0xFBD3, "\u06ad\u06ad\u06ad\u06ad\u06c7\u06c7\u06c6\u06c6\u06c8\u06c8"⟩,
    ⟨0xFBDE, "\u06cb\u06cb\u06c5\u06c5\u06c9\u06c9\u06d0\u06d0\u06d0\u06d0\u0649\u0649"⟩,
    ⟨0xFE10, ",、"⟩, ⟨0xFE13, ":;!?〖〗"⟩, ⟨0xFE31, "—–__()\x7b\x7d〔〕【】《》〈〉「」『』﹅﹆[]"⟩,
    ⟨0xFE54, ";:?!—()\x7b\x7d〔〕#&*+-<>="⟩, ⟨0xFE68, "\\$%@"⟩,
    ⟨0xFE80, "\u0621\u0622\u0622\u0623\u0623\u0624\u0624\u0625\u0625\u0626\u0626\u0626\u0626"⟩,
    ⟨0xFE8D, "\u0627\u0627\u0628\u0628\u0628\u0628\u0629\u0629\u062a\u062a\u062a\u062a\u062b"⟩,
    ⟨0xFE9A, "\u062b\u062b\u062b\u062c\u062c\u062c\u062c\u062d\u062d\u062d\u062d\u062e\u062e"⟩,
    ⟨0xFEA7, "\u062e\u062e\u062f\u062f\u0630\u0630\u0631\u0631\u0632\u0632\u0633\u0633\u0633"⟩,
    ⟨0xFEB4, "\u0633\u0634\u0634\u0634\u0634\u0635\u0635\u0635\u0635\u0636\u0636\u0636\u0636"⟩,
    ⟨0xFEC1, "\u0637\u0637\u0637\u0637\u0638\u0638\u0638\u0638\u0639\u0639\u0639\u0639\u063a"⟩,
    ⟨0xFECE, "\u063a\u063a\u063a\u0641\u0641\u0641\u0641\u0642\u0642\u0642\u0642\u0643\u0643"⟩,
    ⟨0xFEDB, "\u0643\u0643\u0644\u0644\u0644\u0644\u0645\u0645\u0645\u0645\u0646\u0646\u0646"⟩,
    ⟨0xFEE8, "\u0646\u0647\u0647\u0647\u0647\u0648\u0648\u0649\u0649\u064a\u064a\u064a\u064a"⟩,
    ⟨0xFF5F, "⦅⦆.「」、・ヲァィゥェォャュョッーアイウエオカキクケコサシスセソタチツテトナニヌネノハヒフヘホマミムメモヤユヨラリルレロワン\u3099\u309a"⟩,
    ⟨0xFFA1, "\u1100\u1101\u11aa\u1102\u11ac\u11ad\u1103\u1104\u1105\u11b0\u11b1\u11b2\u11b3"⟩,
    ⟨0xFFAE, "\u11b4\u11b5\u111a\u1106\u1107\u1108\u1121"⟩,
    ⟨0xFFC2, "\u1161\u1162\u1163\u1164\u1165\u1166"⟩,
    ⟨0xFFCA, "\u1167\u1168\u1169\u116a\u116b\u116c"⟩,
    ⟨0xFFD2, "\u116d\u116e\u116f\u1170\u1171\u1172"⟩, ⟨0xFFDA, "\u1173\u1174\u1175"⟩,
    ⟨0xFFE8, "│←↑→↓■○"⟩, ⟨0x10781, "ːˑæʙɓ"⟩,
    ⟨0x10787, "ʣꭦʥʤɖɗᶑɘɞʩɤɢɠʛħʜɧʄʪʫɬ𝼄ꞎɮ𝼅ʎ𝼆øɶɷqɺ𝼈ɽɾʀʨʦꭧʧʈⱱ"⟩, ⟨0x107B2, "ʏʡʢʘǀǁǂ𝼊𝼞"⟩,
    ⟨0x1D44E, "abcdefg"⟩, ⟨0x1D49C, "a"⟩, ⟨0x1D49E, "cd"⟩, ⟨0x1D4A2, "g"⟩, ⟨0x1D4A5, "jk"⟩,
    ⟨0x1D4A9, "nopq"⟩, ⟨0x1D4AE, "stuvwxyzabcd"⟩, ⟨0x1D4BB, "f"⟩, ⟨0x1D4BD, "hijklmn"⟩,
    ⟨0x1D504, "ab"⟩, ⟨0x1D507, "defg"⟩, ⟨0x1D50D, "jklmnopq"⟩, ⟨0x1D516, "stuvwxy"⟩,
    ⟨0x1D538, "ab"⟩, ⟨0x1D53B, "defg"⟩, ⟨0x1D540, "ijklm"⟩, ⟨0x1D546, "o"⟩, ⟨0x1D54A, "stuvwxy"⟩,
    ⟨0x1D6A4, "ıȷ"⟩, ⟨0x1D6B9, "θστυφχψω∇"⟩, ⟨0x1D6D3, "σστυφχψω∂εθκφρπ"⟩, ⟨0x1D6F3, "θστυφχψω∇"⟩,
    ⟨0x1D70D, "σστυφχψω∂εθκφρπ"⟩, ⟨0x1D72D, "θστυφχψω∇"⟩, ⟨0x1D747, "σστυφχψω∂εθκφρπ"⟩,
    ⟨0x1D767, "θστυφχψω∇"⟩, ⟨0x1D781, "σστυφχψω∂εθκφρπ"⟩, ⟨0x1D7A1, "θστυφχψω∇"⟩,
    ⟨0x1D7BB, "σστυφχψω∂εθκφρπϝϝ"⟩, ⟨0x1E030, "абвгдежзиклм"⟩,
    ⟨0x1E047, "ыэюꚉәіјөүӏабвгдежзиклопсуфхцчшъыґіѕџҫꙑұ"⟩, ⟨0x1EE00, "\u0627\u0628\u062c\u062f"⟩,
    ⟨0x1EE05, "\u0648\u0632\u062d\u0637\u064a\u0643\u0644\u0645\u0646\u0633\u0639\u0641\u0635"⟩,
    ⟨0x1EE12, "\u0642\u0631\u0634\u062a\u062b\u062e\u0630\u0636\u0638\u063a\u066e\u06ba\u06a1"⟩,
    ⟨0x1EE1F, "\u066f"⟩, ⟨0x1EE21, "\u0628\u062c"⟩, ⟨0x1EE24, "\u0647"⟩, ⟨0x1EE27, "\u062d"⟩,
    ⟨0x1EE29, "\u064a\u0643\u0644\u0645\u0646\u0633\u0639\u0641\u0635\u0642"⟩,
    ⟨0x1EE34, "\u0634\u062a\u062b\u062e"⟩, ⟨0x1EE39, "\u0636"⟩, ⟨0x1EE3B, "\u063a"⟩,
    ⟨0x1EE42, "\u062c"⟩, ⟨0x1EE47, "\u062d"⟩, ⟨0x1EE49, "\u064a"⟩, ⟨0x1EE4B, "\u0644"⟩,
    ⟨0x1EE4D, "\u0646\u0633\u0639"⟩, ⟨0x1EE51, "\u0635\u0642"⟩, ⟨0x1EE54, "\u0634"⟩,
    ⟨0x1EE57, "\u062e"⟩, ⟨0x1EE59, "\u0636"⟩, ⟨0x1EE5B, "\u063a"⟩, ⟨0x1EE5D, "\u06ba"⟩,
    ⟨0x1EE5F, "\u066f"⟩, ⟨0x1EE61, "\u0628\u062c"⟩, ⟨0x1EE64, "\u0647"⟩,
    ⟨0x1EE67, "\u062d\u0637\u064a\u0643"⟩,
    ⟨0x1EE6C, "\u0645\u0646\u0633\u0639\u0641\u0635\u0642"⟩,
    ⟨0x1EE74, "\u0634\u062a\u062b\u062e"⟩, ⟨0x1EE79, "\u0636\u0638\u063a\u066e"⟩,
    ⟨0x1EE7E, "\u06a1"⟩,
    ⟨0x1EE80, "\u0627\u0628\u062c\u062f\u0647\u0648\u0632\u062d\u0637\u064a"⟩,
    ⟨0x1EE8B, "\u0644\u0645\u0646\u0633\u0639\u0641\u0635\u0642\u0631\u0634\u062a\u062b\u062e"⟩,
    ⟨0x1EE98, "\u0630\u0636\u0638\u063a"⟩, ⟨0x1EEA1, "\u0628\u062c\u062f"⟩,
    ⟨0x1EEA5, "\u0648\u0632\u062d\u0637\u064a"⟩,
    ⟨0x1EEAB, "\u0644\u0645\u0646\u0633\u0639\u0641\u0635\u0642\u0631\u0634\u062a\u062b\u062e"⟩,
    ⟨0x1EEB8, "\u0630\u0636\u0638\u063a"⟩,
    ⟨0x1F210, "手字双デ二多解天交映無料前後再新初終生販声吹演投捕一三遊左中右指走打禁空合満有月申割営配"⟩, ⟨0x1F250, "得可"⟩,
    ⟨0x2F800, "丽丸乁𠄢你侮侻倂偺備僧像㒞𠘺免兔兤具𠔜㒹內再𠕋冗冤仌冬况𩇟凵刃㓟刻剆割剷㔕勇勉勤勺包匆北卉卑博即卽卿卿卿𠨬灰及叟𠭣叫叱吆咞吸呈周咢哶唐啓啣善善喙喫喳嗂圖嘆圗噑"⟩,
    ⟨0x2F84F, "噴切壮城埴堍型堲報墬𡓤売壷夆多夢奢𡚨𡛪姬娛娧姘婦㛮㛼嬈嬾嬾𡧈寃寘寧寳𡬘寿将当尢㞁屠屮峀岍𡷤嵃𡷦嵮嵫嵼巡巢㠯巽帨帽幩㡢𢆃㡼庰庳庶廊𪎒廾𢌱𢌱舁弢弢㣇𣊸𦇚形彫㣣徚忍"⟩,
    ⟨0x2F89E, "志忹悁㤺㤜悔𢛔惇慈慌慎慌慺憎憲憤憯懞懲懶成戛扝抱拔捐𢬌挽拼捨掃揤𢯱搢揅掩㨮摩摾撝摷㩬敏敬𣀊旣書晉㬙暑㬈㫤冒冕最暜肭䏙朗望朡杞杓𣏃㭉柺枅桒梅𣑭梎栟椔㮝楂榣槪檨𣚣"⟩,
    ⟨0x2F8ED, "櫛㰘次𣢧歔㱎歲殟殺殻𣪍𡴋𣫺汎𣲼沿泍汧洖派海流浩浸涅𣴞洴港湮㴳滋滇𣻑淹潮𣽞𣾎濆瀹瀞瀛㶖灊災灷炭𠔥煅𤉣熜𤎫爨爵牐𤘈犀犕𤜵𤠔獺王㺬玥㺸㺸瑇瑜瑱璅瓊㼛甤𤰶甾𤲒異𢆟瘐𤾡"⟩,
    ⟨0x2F93C, "𤾸𥁄㿼䀈直𥃳𥃲𥄙𥄳眞真真睊䀹瞋䁆䂖𥐝硎碌磌䃣𥘦祖𥚚𥛅福秫䄯穀穊穏𥥼𥪧𥪧竮䈂𥮫篆築䈧𥲀糒䊠糨糣紀𥾆絣䌁緇縂繅䌴𦈨𦉇䍙𦋙罺𦌾羕翺者𦓚𦔣聠𦖨聰𣍟䏕育脃䐋脾媵𦞧𦞵𣎓𣎜"⟩,
    ⟨0x2F98B, "舁舄辞䑫芑芋芝劳花芳芽苦𦬼若茝荣莭茣莽菧著荓菊菌菜𦰶𦵫𦳕䔫蓱蓳蔖𧏊蕤𦼬䕝䕡𦾱𧃒䕫虐虜虧虩蚩蚈蜎蛢蝹蜨蝫螆䗗蟡蠁䗹衠衣𧙧裗裞䘵裺㒻𧢮𧥦䚾䛇誠諭變豕𧲨貫賁贛起𧼯𠠄"⟩,
    ⟨0x2F9DA, "跋趼跰𠣞軔輸𨗒𨗭邔郱鄑𨜮鄛鈸鋗鋘鉼鏹鐕𨯺開䦕閷𨵷䧦雃嶲霣𩅅𩈚䩮䩶韠𩐊䪲𩒖頋頋頩𩖶飢䬳餩馧駂駾䯎𩬰鬒鱀鳽䳎䳭鵧𪃎䳸𪄅𪈎𪊑麻䵖黹黾鼅鼏鼖鼻𪘀"⟩ ]

/-- Stretches in which characters are taken for texts, with a section sign between these. -/
def textStretches : List Stretch :=
  [ ⟨0x00A8, " \u0308§©§a"⟩, ⟨0x00AF, " \u0304§°§±§2§3§ \u0301§μ§¶§·§ \u0327§1§o§»§1⁄4§1⁄2§3⁄4"⟩,
    ⟨0x0132, "ij§ij"⟩, ⟨0x013F, "l·§l·"⟩, ⟨0x0149, "ʼn"⟩, ⟨0x01C4, "dž§dž§dž§lj§lj§lj§nj§nj§nj"⟩,
    ⟨0x01F1, "dz§dz§dz"⟩,
    ⟨0x02D8, " \u0306§ \u0307§ \u030a§ \u0328§ \u0303§ \u030b§˞§˟§ɣ§l§s§x§ʕ"⟩,
    ⟨0x0340, "\u0300§\u0301§\u0342§\u0313§\u0308\u0301§ι"⟩, ⟨0x037A, " ι§ͻ§ͼ§ͽ§;"⟩,
    ⟨0x0384, " \u0301§ \u0308\u0301"⟩, ⟨0x0587, "եւ"⟩,
    ⟨0x0675, "\u0627\u0674§\u0648\u0674§\u06c7\u0674§\u064a\u0674"⟩,
    ⟨0x0958, "क\u093c§ख\u093c§ग\u093c§ज\u093c§ड\u093c§ढ\u093c§फ\u093c§य\u093c"⟩,
    ⟨0x09DC, "ড\u09bc§ঢ\u09bc"⟩, ⟨0x09DF, "য\u09bc"⟩, ⟨0x0A33, "ਲ\u0a3c"⟩, ⟨0x0A36, "ਸ\u0a3c"⟩,
    ⟨0x0A59, "ਖ\u0a3c§ਗ\u0a3c§ਜ\u0a3c"⟩, ⟨0x0A5E, "ਫ\u0a3c"⟩, ⟨0x0B5C, "ଡ\u0b3c§ଢ\u0b3c"⟩,
    ⟨0x0E33, "\u0e4dา"⟩, ⟨0x0EB3, "\u0ecdາ"⟩, ⟨0x0EDC, "ຫນ§ຫມ"⟩, ⟨0x0F43, "ག\u0fb7"⟩,
    ⟨0x0F4D, "ཌ\u0fb7"⟩, ⟨0x0F52, "ད\u0fb7"⟩, ⟨0x0F57, "བ\u0fb7"⟩, ⟨0x0F5C, "ཛ\u0fb7"⟩,
    ⟨0x0F69, "ཀ\u0fb5"⟩,
    ⟨0x0F73, "\u0f71\u0f72§\u0f74§\u0f71\u0f74§\u0fb2\u0f80§\u0fb2\u0f71\u0f80§\u0fb3\u0f80"⟩,
    ⟨0x0F79, "\u0fb3\u0f71\u0f80"⟩, ⟨0x0F81, "\u0f71\u0f80"⟩, ⟨0x0F93, "\u0f92\u0fb7"⟩,
    ⟨0x0F9D, "\u0f9c\u0fb7"⟩, ⟨0x0FA2, "\u0fa1\u0fb7"⟩, ⟨0x0FA7, "\u0fa6\u0fb7"⟩,
    ⟨0x0FAC, "\u0fab\u0fb7"⟩, ⟨0x0FB9, "\u0f90\u0fb5"⟩, ⟨0x1E9A, "aʾ§ṡ"⟩,
    ⟨0x1F80, "ἀι§ἁι§ἂι§ἃι§ἄι§ἅι§ἆι§ἇι§ἀι§ἁι§ἂι§ἃι§ἄι§ἅι§ἆι§ἇι§ἠι§ἡι§ἢι§ἣι§ἤι§ἥι§ἦι§ἧι§ἠι§ἡι§ἢι"⟩,
    ⟨0x1F9B, "ἣι§ἤι§ἥι§ἦι§ἧι§ὠι§ὡι§ὢι§ὣι§ὤι§ὥι§ὦι§ὧι§ὠι§ὡι§ὢι§ὣι§ὤι§ὥι§ὦι§ὧι§ᾰ§ᾱ§ὰι§αι§άι"⟩,
    ⟨0x1FB7, "ᾶι"⟩, ⟨0x1FBB, "ά§αι§ \u0313§ι§ \u0313§ \u0342§ \u0308\u0342§ὴι§ηι§ήι"⟩,
    ⟨0x1FC7, "ῆι"⟩, ⟨0x1FCB, "ή§ηι§ \u0313\u0300§ \u0313\u0301§ \u0313\u0342§ῐ§ῑ§ῒ§ΐ"⟩,
    ⟨0x1FDD, " \u0314\u0300§ \u0314\u0301§ \u0314\u0342§ῠ§ῡ§ῢ§ΰ"⟩,
    ⟨0x1FED, " \u0308\u0300§ \u0308\u0301§\u0060"⟩, ⟨0x1FF2, "ὼι§ωι§ώι"⟩, ⟨0x1FF7, "ῶι"⟩,
    ⟨0x1FFB, "ώ§ωι§ \u0301§ \u0314"⟩, ⟨0x2017, " \u0333"⟩, ⟨0x202F, " §‰§‱§′§′′§′′′§‵§‵‵§‵‵‵"⟩,
    ⟨0x203C, "!!§‽§ \u0305"⟩, ⟨0x2047, "??§?!§!?"⟩, ⟨0x2057, "′′′′"⟩, ⟨0x20A8, "rs"⟩,
    ⟨0x2100, "a/c§a/s§c§°c§℄§c/o§c/u§ɛ§℈§°f"⟩, ⟨0x2116, "no"⟩, ⟨0x2120, "sm§tel§tm§℣§z"⟩,
    ⟨0x213B, "fax§π§γ§γ§π§∑"⟩,
    ⟨0x2150, "1⁄7§1⁄9§1⁄10§1⁄3§2⁄3§1⁄5§2⁄5§3⁄5§4⁄5§1⁄6§5⁄6§1⁄8§3⁄8§5⁄8§7⁄8§1⁄§i§ii§iii§iv§v§vi"⟩,
    ⟨0x2166, "vii§viii§ix§x§xi§xii§l§c§d§m§i§ii§iii§iv§v§vi§vii§viii§ix§x§xi§xii§l§c§d§m"⟩,
    ⟨0x2189, "0⁄3"⟩, ⟨0x222C, "∫∫§∫∫∫§∮§∮∮§∮∮∮"⟩,
    ⟨0x2469, "10§11§12§13§14§15§16§17§18§19§20§(1)§(2)§(3)§(4)§(5)§(6)§(7)§(8)§(9)§(10)§(11)"⟩,
    ⟨0x247F, "(12)§(13)§(14)§(15)§(16)§(17)§(18)§(19)§(20)"⟩,
    ⟨0x249C, "(a)§(b)§(c)§(d)§(e)§(f)§(g)§(h)§(i)§(j)§(k)§(l)§(m)§(n)§(o)§(p)§(q)§(r)§(s)§(t)"⟩,
    ⟨0x24B0, "(u)§(v)§(w)§(x)§(y)§(z)"⟩, ⟨0x2A0C, "∫∫∫∫"⟩, ⟨0x2A74, "::=§==§==="⟩,
    ⟨0x2ADC, "⫝\u0338"⟩, ⟨0x309B, " \u3099§ \u309a§ゝ§ゞ§より"⟩, ⟨0x30FF, "コト"⟩,
    ⟨0x3200, "(\u1100)§(\u1102)§(\u1103)§(\u1105)§(\u1106)§(\u1107)§(\u1109)§(\u110b)§(\u110c)"⟩,
    ⟨0x3209, "(\u110e)§(\u110f)§(\u1110)§(\u1111)§(\u1112)§(가)§(나)§(다)§(라)§(마)§(바)§(사)§(아)§(자)"⟩,
    ⟨0x3217, "(차)§(카)§(타)§(파)§(하)§(주)§(오전)§(오후)"⟩,
    ⟨0x3220, "(一)§(二)§(三)§(四)§(五)§(六)§(七)§(八)§(九)§(十)§(月)§(火)§(水)§(木)§(金)§(土)§(日)§(株)§(有)§(社)"⟩,
    ⟨0x3234, "(名)§(特)§(財)§(祝)§(労)§(代)§(呼)§(学)§(監)§(企)§(資)§(協)§(祭)§(休)§(自)§(至)§問§幼§文§箏"⟩,
    ⟨0x3250, "pte§21§22§23§24§25§26§27§28§29§30§31§32§33§34§35"⟩, ⟨0x327C, "참고§주의"⟩,
    ⟨0x32B1, "36§37§38§39§40§41§42§43§44§45§46§47§48§49§50§1月§2月§3月§4月§5月§6月§7月§8月§9月§10月§11月"⟩,
    ⟨0x32CB, "12月§hg§erg§ev§ltd"⟩,
    ⟨0x32FF, "令和§アパート§アルファ§アンペア§アール§イニング§インチ§ウォン§エスクード§エーカー§オンス§オーム§カイリ§カラット§カロリー§ガロン§ガンマ§ギガ"⟩,
    ⟨0x3311, "ギニー§キュリー§ギルダー§キロ§キログラム§キロメートル§キロワット§グラム§グラムトン§クルゼイロ§クローネ§ケース§コルナ§コーポ§サイクル§サンチーム"⟩,
    ⟨0x3321, "シリング§センチ§セント§ダース§デシ§ドル§トン§ナノ§ノット§ハイツ§パーセント§パーツ§バーレル§ピアストル§ピクル§ピコ§ビル§ファラッド§フィート"⟩,
    ⟨0x3334, "ブッシェル§フラン§ヘクタール§ペソ§ペニヒ§ヘルツ§ペンス§ページ§ベータ§ポイント§ボルト§ホン§ポンド§ホール§ホーン§マイクロ§マイル§マッハ§マルク"⟩,
    ⟨0x3347, "マンション§ミクロン§ミリ§ミリバール§メガ§メガトン§メートル§ヤード§ヤール§ユアン§リットル§リラ§ルピー§ルーブル§レム§レントゲン§ワット§0点§1点"⟩,
    ⟨0x335A, "2点§3点§4点§5点§6点§7点§8点§9点§10点§11点§12点§13点§14点§15点§16点§17点§18点§19点§20点§21点§22点§23点"⟩,
    ⟨0x3370, "24点§hpa§da§au§bar§ov§pc§dm§dm2§dm3§iu§平成§昭和§大正§明治§株式会社§pa§na§μa§ma§ka§kb§mb§gb"⟩,
    ⟨0x3388, "cal§kcal§pf§nf§μf§μg§mg§kg§hz§khz§mhz§ghz§thz§μl§ml§dl§kl§fm§nm§μm§mm§cm§km§mm2"⟩,
    ⟨0x33A0, "cm2§m2§km2§mm3§cm3§m3§km3§m∕s§m∕s2§pa§kpa§mpa§gpa§rad§rad∕s§rad∕s2§ps§ns§μs§ms"⟩,
    ⟨0x33B4, "pv§nv§μv§mv§kv§mv§pw§nw§μw§mw§kw§mw§kω§mω"⟩, ⟨0x33C3, "bq§cc§cd§c∕kg"⟩,
    ⟨0x33C8, "db§gy§ha§hp§in§kk§km§kt§lm§ln§log§lx§mb§mil§mol§ph"⟩,
    ⟨0x33D9, "ppm§pr§sr§sv§wb§v∕m§a∕m§1日§2日§3日§4日§5日§6日§7日§8日§9日§10日§11日§12日§13日§14日§15日§16日"⟩,
    ⟨0x33F0, "17日§18日§19日§20日§21日§22日§23日§24日§25日§26日§27日§28日§29日§30日§31日§gal"⟩,
    ⟨0xFB00, "ff§fi§fl§ffi§ffl§st§st"⟩, ⟨0xFB13, "մն§մե§մի§վն§մխ"⟩,
    ⟨0xFB1D, "\u05d9\u05b4§\ufb1e§\u05f2\u05b7"⟩,
    ⟨0xFB2A, "\u05e9\u05c1§\u05e9\u05c2§\u05e9\u05bc\u05c1§\u05e9\u05bc\u05c2§\u05d0\u05b7"⟩,
    ⟨0xFB2F, "\u05d0\u05b8§\u05d0\u05bc§\u05d1\u05bc§\u05d2\u05bc§\u05d3\u05bc§\u05d4\u05bc"⟩,
    ⟨0xFB35, "\u05d5\u05bc§\u05d6\u05bc"⟩,
    ⟨0xFB38, "\u05d8\u05bc§\u05d9\u05bc§\u05da\u05bc§\u05db\u05bc§\u05dc\u05bc"⟩,
    ⟨0xFB3E, "\u05de\u05bc"⟩, ⟨0xFB40, "\u05e0\u05bc§\u05e1\u05bc"⟩,
    ⟨0xFB43, "\u05e3\u05bc§\u05e4\u05bc"⟩,
    ⟨0xFB46, "\u05e6\u05bc§\u05e7\u05bc§\u05e8\u05bc§\u05e9\u05bc§\u05ea\u05bc§\u05d5\u05b9"⟩,
    ⟨0xFB4C, "\u05d1\u05bf§\u05db\u05bf§\u05e4\u05bf§\u05d0\u05dc"⟩, ⟨0xFBDD, "\u06c7\u0674"⟩,
    ⟨0xFBEA, "\u0626\u0627§\u0626\u0627§\u0626\u06d5§\u0626\u06d5§\u0626\u0648§\u0626\u0648"⟩,
    ⟨0xFBF0, "\u0626\u06c7§\u0626\u06c7§\u0626\u06c6§\u0626\u06c6§\u0626\u06c8§\u0626\u06c8"⟩,
    ⟨0xFBF6, "\u0626\u06d0§\u0626\u06d0§\u0626\u06d0§\u0626\u0649§\u0626\u0649§\u0626\u0649"⟩,
    ⟨0xFBFC, "\u06cc§\u06cc§\u06cc§\u06cc§\u0626\u062c§\u0626\u062d§\u0626\u0645§\u0626\u0649"⟩,
    ⟨0xFC04, "\u0626\u064a§\u0628\u062c§\u0628\u062d§\u0628\u062e§\u0628\u0645§\u0628\u0649"⟩,
    ⟨0xFC0A, "\u0628\u064a§\u062a\u062c§\u062a\u062d§\u062a\u062e§\u062a\u0645§\u062a\u0649"⟩,
    ⟨0xFC10, "\u062a\u064a§\u062b\u062c§\u062b\u0645§\u062b\u0649§\u062b\u064a§\u062c\u062d"⟩,
    ⟨0xFC16, "\u062c\u0645§\u062d\u062c§\u062d\u0645§\u062e\u062c§\u062e\u062d§\u062e\u0645"⟩,
    ⟨0xFC1C, "\u0633\u062c§\u0633\u062d§\u0633\u062e§\u0633\u0645§\u0635\u062d§\u0635\u0645"⟩,
    ⟨0xFC22, "\u0636\u062c§\u0636\u062d§\u0636\u062e§\u0636\u0645§\u0637\u062d§\u0637\u0645"⟩,
    ⟨0xFC28, "\u0638\u0645§\u0639\u062c§\u0639\u0645§\u063a\u062c§\u063a\u0645§\u0641\u062c"⟩,
    ⟨0xFC2E, "\u0641\u062d§\u0641\u062e§\u0641\u0645§\u0641\u0649§\u0641\u064a§\u0642\u062d"⟩,
    ⟨0xFC34, "\u0642\u0645§\u0642\u0649§\u0642\u064a§\u0643\u0627§\u0643\u062c§\u0643\u062d"⟩,
    ⟨0xFC3A, "\u0643\u062e§\u0643\u0644§\u0643\u0645§\u0643\u0649§\u0643\u064a§\u0644\u062c"⟩,
    ⟨0xFC40, "\u0644\u062d§\u0644\u062e§\u0644\u0645§\u0644\u0649§\u0644\u064a§\u0645\u062c"⟩,
    ⟨0xFC46, "\u0645\u062d§\u0645\u062e§\u0645\u0645§\u0645\u0649§\u0645\u064a§\u0646\u062c"⟩,
    ⟨0xFC4C, "\u0646\u062d§\u0646\u062e§\u0646\u0645§\u0646\u0649§\u0646\u064a§\u0647\u062c"⟩,
    ⟨0xFC52, "\u0647\u0645§\u0647\u0649§\u0647\u064a§\u064a\u062c§\u064a\u062d§\u064a\u062e"⟩,
    ⟨0xFC58, "\u064a\u0645§\u064a\u0649§\u064a\u064a§\u0630\u0670§\u0631\u0670§\u0649\u0670"⟩,
    ⟨0xFC5E, " \u064c\u0651§ \u064d\u0651§ \u064e\u0651§ \u064f\u0651§ \u0650\u0651"⟩,
    ⟨0xFC63, " \u0651\u0670§\u0626\u0631§\u0626\u0632§\u0626\u0645§\u0626\u0646§\u0626\u0649"⟩,
    ⟨0xFC69, "\u0626\u064a§\u0628\u0631§\u0628\u0632§\u0628\u0645§\u0628\u0646§\u0628\u0649"⟩,
    ⟨0xFC6F, "\u0628\u064a§\u062a\u0631§\u062a\u0632§\u062a\u0645§\u062a\u0646§\u062a\u0649"⟩,
    ⟨0xFC75, "\u062a\u064a§\u062b\u0631§\u062b\u0632§\u062b\u0645§\u062b\u0646§\u062b\u0649"⟩,
    ⟨0xFC7B, "\u062b\u064a§\u0641\u0649§\u0641\u064a§\u0642\u0649§\u0642\u064a§\u0643\u0627"⟩,
    ⟨0xFC81, "\u0643\u0644§\u0643\u0645§\u0643\u0649§\u0643\u064a§\u0644\u0645§\u0644\u0649"⟩,
    ⟨0xFC87, "\u0644\u064a§\u0645\u0627§\u0645\u0645§\u0646\u0631§\u0646\u0632§\u0646\u0645"⟩,
    ⟨0xFC8D, "\u0646\u0646§\u0646\u0649§\u0646\u064a§\u0649\u0670§\u064a\u0631§\u064a\u0632"⟩,
    ⟨0xFC93, "\u064a\u0645§\u064a\u0646§\u064a\u0649§\u064a\u064a§\u0626\u062c§\u0626\u062d"⟩,
    ⟨0xFC99, "\u0626\u062e§\u0626\u0645§\u0626\u0647§\u0628\u062c§\u0628\u062d§\u0628\u062e"⟩,
    ⟨0xFC9F, "\u0628\u0645§\u0628\u0647§\u062a\u062c§\u062a\u062d§\u062a\u062e§\u062a\u0645"⟩,
    ⟨0xFCA5, "\u062a\u0647§\u062b\u0645§\u062c\u062d§\u062c\u0645§\u062d\u062c§\u062d\u0645"⟩,
    ⟨0xFCAB, "\u062e\u062c§\u062e\u0645§\u0633\u062c§\u0633\u062d§\u0633\u062e§\u0633\u0645"⟩,
    ⟨0xFCB1, "\u0635\u062d§\u0635\u062e§\u0635\u0645§\u0636\u062c§\u0636\u062d§\u0636\u062e"⟩,
    ⟨0xFCB7, "\u0636\u0645§\u0637\u062d§\u0638\u0645§\u0639\u062c§\u0639\u0645§\u063a\u062c"⟩,
    ⟨0xFCBD, "\u063a\u0645§\u0641\u062c§\u0641\u062d§\u0641\u062e§\u0641\u0645§\u0642\u062d"⟩,
    ⟨0xFCC3, "\u0642\u0645§\u0643\u062c§\u0643\u062d§\u0643\u062e§\u0643\u0644§\u0643\u0645"⟩,
    ⟨0xFCC9, "\u0644\u062c§\u0644\u062d§\u0644\u062e§\u0644\u0645§\u0644\u0647§\u0645\u062c"⟩,
    ⟨0xFCCF, "\u0645\u062d§\u0645\u062e§\u0645\u0645§\u0646\u062c§\u0646\u062d§\u0646\u062e"⟩,
    ⟨0xFCD5, "\u0646\u0645§\u0646\u0647§\u0647\u062c§\u0647\u0645§\u0647\u0670§\u064a\u062c"⟩,
    ⟨0xFCDB, "\u064a\u062d§\u064a\u062e§\u064a\u0645§\u064a\u0647§\u0626\u0645§\u0626\u0647"⟩,
    ⟨0xFCE1, "\u0628\u0645§\u0628\u0647§\u062a\u0645§\u062a\u0647§\u062b\u0645§\u062b\u0647"⟩,
    ⟨0xFCE7, "\u0633\u0645§\u0633\u0647§\u0634\u0645§\u0634\u0647§\u0643\u0644§\u0643\u0645"⟩,
    ⟨0xFCED, "\u0644\u0645§\u0646\u0645§\u0646\u0647§\u064a\u0645§\u064a\u0647"⟩,
    ⟨0xFCF2, "\u0640\u064e\u0651§\u0640\u064f\u0651§\u0640\u0650\u0651§\u0637\u0649"⟩,
    ⟨0xFCF6, "\u0637\u064a§\u0639\u0649§\u0639\u064a§\u063a\u0649§\u063a\u064a§\u0633\u0649"⟩,
    ⟨0xFCFC, "\u0633\u064a§\u0634\u0649§\u0634\u064a§\u062d\u0649§\u062d\u064a§\u062c\u0649"⟩,
    ⟨0xFD02, "\u062c\u064a§\u062e\u0649§\u062e\u064a§\u0635\u0649§\u0635\u064a§\u0636\u0649"⟩,
    ⟨0xFD08, "\u0636\u064a§\u0634\u062c§\u0634\u062d§\u0634\u062e§\u0634\u0645§\u0634\u0631"⟩,
    ⟨0xFD0E, "\u0633\u0631§\u0635\u0631§\u0636\u0631§\u0637\u0649§\u0637\u064a§\u0639\u0649"⟩,
    ⟨0xFD14, "\u0639\u064a§\u063a\u0649§\u063a\u064a§\u0633\u0649§\u0633\u064a§\u0634\u0649"⟩,
    ⟨0xFD1A, "\u0634\u064a§\u062d\u0649§\u062d\u064a§\u062c\u0649§\u062c\u064a§\u062e\u0649"⟩,
    ⟨0xFD20, "\u062e\u064a§\u0635\u0649§\u0635\u064a§\u0636\u0649§\u0636\u064a§\u0634\u062c"⟩,
    ⟨0xFD26, "\u0634\u062d§\u0634\u062e§\u0634\u0645§\u0634\u0631§\u0633\u0631§\u0635\u0631"⟩,
    ⟨0xFD2C, "\u0636\u0631§\u0634\u062c§\u0634\u062d§\u0634\u062e§\u0634\u0645§\u0633\u0647"⟩,
    ⟨0xFD32, "\u0634\u0647§\u0637\u0645§\u0633\u062c§\u0633\u062d§\u0633\u062e§\u0634\u062c"⟩,
    ⟨0xFD38, "\u0634\u062d§\u0634\u062e§\u0637\u0645§\u0638\u0645§\u0627\u064b§\u0627\u064b"⟩,
    ⟨0xFD50, "\u062a\u062c\u0645§\u062a\u062d\u062c§\u062a\u062d\u062c§\u062a\u062d\u0645"⟩,
    ⟨0xFD54, "\u062a\u062e\u0645§\u062a\u0645\u062c§\u062a\u0645\u062d§\u062a\u0645\u062e"⟩,
    ⟨0xFD58, "\u062c\u0645\u062d§\u062c\u0645\u062d§\u062d\u0645\u064a§\u062d\u0645\u0649"⟩,
    ⟨0xFD5C, "\u0633\u062d\u062c§\u0633\u062c\u062d§\u0633\u062c\u0649§\u0633\u0645\u062d"⟩,
    ⟨0xFD60, "\u0633\u0645\u062d§\u0633\u0645\u062c§\u0633\u0645\u0645§\u0633\u0645\u0645"⟩,
    ⟨0xFD64, "\u0635\u062d\u062d§\u0635\u062d\u062d§\u0635\u0645\u0645§\u0634\u062d\u0645"⟩,
    ⟨0xFD68, "\u0634\u062d\u0645§\u0634\u062c\u064a§\u0634\u0645\u062e§\u0634\u0645\u062e"⟩,
    ⟨0xFD6C, "\u0634\u0645\u0645§\u0634\u0645\u0645§\u0636\u062d\u0649§\u0636\u062e\u0645"⟩,
    ⟨0xFD70, "\u0636\u062e\u0645§\u0637\u0645\u062d§\u0637\u0645\u062d§\u0637\u0645\u0645"⟩,
    ⟨0xFD74, "\u0637\u0645\u064a§\u0639\u062c\u0645§\u0639\u0645\u0645§\u0639\u0645\u0645"⟩,
    ⟨0xFD78, "\u0639\u0645\u0649§\u063a\u0645\u0645§\u063a\u0645\u064a§\u063a\u0645\u0649"⟩,
    ⟨0xFD7C, "\u0641\u062e\u0645§\u0641\u062e\u0645§\u0642\u0645\u062d§\u0642\u0645\u0645"⟩,
    ⟨0xFD80, "\u0644\u062d\u0645§\u0644\u062d\u064a§\u0644\u062d\u0649§\u0644\u062c\u062c"⟩,
    ⟨0xFD84, "\u0644\u062c\u062c§\u0644\u062e\u0645§\u0644\u062e\u0645§\u0644\u0645\u062d"⟩,
    ⟨0xFD88, "\u0644\u0645\u062d§\u0645\u062d\u062c§\u0645\u062d\u0645§\u0645\u062d\u064a"⟩,
    ⟨0xFD8C, "\u0645\u062c\u062d§\u0645\u062c\u0645§\u0645\u062e\u062c§\u0645\u062e\u0645"⟩,
    ⟨0xFD90, "\ufd90§\ufd91§\u0645\u062c\u062e§\u0647\u0645\u062c§\u0647\u0645\u0645"⟩,
    ⟨0xFD95, "\u0646\u062d\u0645§\u0646\u062d\u0649§\u0646\u062c\u0645§\u0646\u062c\u0645"⟩,
    ⟨0xFD99, "\u0646\u062c\u0649§\u0646\u0645\u064a§\u0646\u0645\u0649§\u064a\u0645\u0645"⟩,
    ⟨0xFD9D, "\u064a\u0645\u0645§\u0628\u062e\u064a§\u062a\u062c\u064a§\u062a\u062c\u0649"⟩,
    ⟨0xFDA1, "\u062a\u062e\u064a§\u062a\u062e\u0649§\u062a\u0645\u064a§\u062a\u0645\u0649"⟩,
    ⟨0xFDA5, "\u062c\u0645\u064a§\u062c\u062d\u0649§\u062c\u0645\u0649§\u0633\u062e\u0649"⟩,
    ⟨0xFDA9, "\u0635\u062d\u064a§\u0634\u062d\u064a§\u0636\u062d\u064a§\u0644\u062c\u064a"⟩,
    ⟨0xFDAD, "\u0644\u0645\u064a§\u064a\u062d\u064a§\u064a\u062c\u064a§\u064a\u0645\u064a"⟩,
    ⟨0xFDB1, "\u0645\u0645\u064a§\u0642\u0645\u064a§\u0646\u062d\u064a§\u0642\u0645\u062d"⟩,
    ⟨0xFDB5, "\u0644\u062d\u0645§\u0639\u0645\u064a§\u0643\u0645\u064a§\u0646\u062c\u062d"⟩,
    ⟨0xFDB9, "\u0645\u062e\u064a§\u0644\u062c\u0645§\u0643\u0645\u0645§\u0644\u062c\u0645"⟩,
    ⟨0xFDBD, "\u0646\u062c\u062d§\u062c\u062d\u064a§\u062d\u062c\u064a§\u0645\u062c\u064a"⟩,
    ⟨0xFDC1, "\u0641\u0645\u064a§\u0628\u062d\u064a§\u0643\u0645\u0645§\u0639\u062c\u0645"⟩,
    ⟨0xFDC5, "\u0635\u0645\u0645§\u0633\u062e\u064a§\u0646\u062c\u064a"⟩,
    ⟨0xFDF0, "\u0635\u0644\u06d2§\u0642\u0644\u06d2§\u0627\u0644\u0644\u0647"⟩,
    ⟨0xFDF3, "\u0627\u0643\u0628\u0631§\u0645\u062d\u0645\u062f§\u0635\u0644\u0639\u0645"⟩,
    ⟨0xFDF6, "\u0631\u0633\u0648\u0644§\u0639\u0644\u064a\u0647§\u0648\u0633\u0644\u0645"⟩,
    ⟨0xFDF9, "\u0635\u0644\u0649"⟩, ⟨0xFDFA, "صلى الله عليه وسلم"⟩,
    ⟨0xFDFB, "\u062c\u0644 \u062c\u0644\u0627\u0644\u0647§\u0631\u06cc\u0627\u0644"⟩,
    ⟨0xFE49, " \u0305§ \u0305§ \u0305§ \u0305§_§_§_§,§、"⟩,
    ⟨0xFE70, " \u064b§\u0640\u064b§ \u064c§\ufe73§ \u064d"⟩,
    ⟨0xFE76, " \u064e§\u0640\u064e§ \u064f§\u0640\u064f§ \u0650§\u0640\u0650§ \u0651"⟩,
    ⟨0xFE7D, "\u0640\u0651§ \u0652§\u0640\u0652"⟩,
    ⟨0xFEF5, "\u0644\u0622§\u0644\u0622§\u0644\u0623§\u0644\u0623§\u0644\u0625§\u0644\u0625"⟩,
    ⟨0xFEFB, "\u0644\u0627§\u0644\u0627"⟩, ⟨0xFFE0, "¢§£§¬§ \u0304§¦§¥§₩"⟩,
    ⟨0x1D15E, "𝅗𝅥§𝅘𝅥§𝅘𝅥𝅮§𝅘𝅥𝅯§𝅘𝅥𝅰§𝅘𝅥𝅱§𝅘𝅥𝅲"⟩, ⟨0x1D1BB, "𝆹𝅥§𝆺𝅥§𝆹𝅥𝅮§𝆺𝅥𝅮§𝆹𝅥𝅯§𝆺𝅥𝅯"⟩,
    ⟨0x1F101, "0,§1,§2,§3,§4,§5,§6,§7,§8,§9,"⟩,
    ⟨0x1F110, "(a)§(b)§(c)§(d)§(e)§(f)§(g)§(h)§(i)§(j)§(k)§(l)§(m)§(n)§(o)§(p)§(q)§(r)§(s)§(t)"⟩,
    ⟨0x1F124, "(u)§(v)§(w)§(x)§(y)§(z)§〔s〕§c§r§cd§wz"⟩, ⟨0x1F14A, "hv§mv§sd§ss§ppv§wc"⟩,
    ⟨0x1F16A, "mc§md§mr"⟩, ⟨0x1F190, "dj"⟩, ⟨0x1F200, "ほか§ココ§サ"⟩,
    ⟨0x1F240, "〔本〕§〔三〕§〔二〕§〔安〕§〔点〕§〔打〕§〔盗〕§〔勝〕§〔敗〕"⟩ ]

/-- What a character is taken for by one of the stretches of single characters. -/
def letterReplacement? (code : Nat) : Option (List Char) :=
  letterStretches.findSome? fun stretch =>
    if code < stretch.first then none
    else (stretch.replacements.toList[code - stretch.first]?).map ([·])

/-- What a character is taken for by one of the stretches of texts. -/
def textReplacement? (code : Nat) : Option (List Char) :=
  textStretches.findSome? fun stretch =>
    if code < stretch.first then none
    else ((stretch.replacements.splitOn "§")[code - stretch.first]?).map String.toList

/-- What a character that is not ignored is taken for. -/
def replacement (character : Char) : List Char :=
  let code := character.toNat
  if code < 0x80 then [asciiLower character]
  else
    match CodeShift.shifted? shiftedLetters character with
    | some shifted => [shifted]
    | none =>
        ((letterReplacement? code).orElse fun _ => textReplacement? code).getD
          (lowerCase character)

end Domain

end IntentPolicy
