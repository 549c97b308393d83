import BlockText.Text.Basic

/-!
# Data of the compatible normal form

What the characters that may stand in identifiers are replaced by, how base characters and marks
join, and in which order marks stand.  The data are those of Unicode 14.  A row gives a first code
point and, separated by blanks, what belongs to it and to its successors.
-/

namespace BlockText.Text

/-- Rows of a table by code point. -/
abbrev Rows := List (Nat × String)

/-- The entries of rows. -/
def Rows.entries (rows : Rows) : List (Char × List Char) :=
  rows.flatMap fun (first, words) =>
    (splitAt ' ' words.toList).zipIdx.map fun (word, i) => (Char.ofNat (first + i), word)

/-- Replacements of characters that are variants of others. -/
def variantRows : Rows :=
  [(0xaa, "a"), (0xb5, "μ"), (0xba, "o"), (0x132, "IJ ij"), (0x13f, "L\u00b7 l\u00b7"),
   (0x149, "\u02bcn"), (0x17f, "s"), (0x1c4, "DŽ Dž dž LJ Lj lj NJ Nj nj"), (0x1f1, "DZ Dz dz"),
   (0x2b0, "h ɦ j r ɹ ɻ ʁ w y"), (0x2e0, "ɣ l s x ʕ"), (0x340, "\u0300 \u0301"),
   (0x343, "\u0313 \u0308\u0301"), (0x374, "\u02b9"), (0x387, "\u00b7"), (0x3d0, "β θ Υ Ύ Ϋ φ π"),
   (0x3f0, "κ ρ ς"), (0x3f4, "Θ ε"), (0x3f9, "Σ"), (0x587, "\u0565\u0582"),
   (0x675, "\u0627\u0674 \u0648\u0674 \u06c7\u0674 \u064a\u0674"),
   (0x958, "\u0915\u093c \u0916\u093c \u0917\u093c \u091c\u093c \u0921\u093c"),
   (0x95d, "\u0922\u093c \u092b\u093c \u092f\u093c"), (0x9dc, "\u09a1\u09bc \u09a2\u09bc"),
   (0x9df, "\u09af\u09bc"), (0xa33, "\u0a32\u0a3c"), (0xa36, "\u0a38\u0a3c"),
   (0xa59, "\u0a16\u0a3c \u0a17\u0a3c \u0a1c\u0a3c"), (0xa5e, "\u0a2b\u0a3c"),
   (0xb5c, "\u0b21\u0b3c \u0b22\u0b3c"), (0xe33, "\u0e4d\u0e32"), (0xeb3, "\u0ecd\u0eb2"),
   (0xedc, "\u0eab\u0e99 \u0eab\u0ea1"), (0xf43, "\u0f42\u0fb7"), (0xf4d, "\u0f4c\u0fb7"),
   (0xf52, "\u0f51\u0fb7"), (0xf57, "\u0f56\u0fb7"), (0xf5c, "\u0f5b\u0fb7"),
   (0xf69, "\u0f40\u0fb5"), (0xf73, "\u0f71\u0f72"),
   (0xf75, "\u0f71\u0f74 \u0fb2\u0f80 \u0fb2\u0f71\u0f80 \u0fb3\u0f80"),
   (0xf79, "\u0fb3\u0f71\u0f80"), (0xf81, "\u0f71\u0f80"), (0xf93, "\u0f92\u0fb7"),
   (0xf9d, "\u0f9c\u0fb7"), (0xfa2, "\u0fa1\u0fb7"), (0xfa7, "\u0fa6\u0fb7"),
   (0xfac, "\u0fab\u0fb7"), (0xfb9, "\u0f90\u0fb5"), (0x10fc, "\u10dc"), (0x1d2c, "A Æ B"),
   (0x1d30, "D E Ǝ G H I J K L M N"), (0x1d3c, "O Ȣ P R T U W a ɐ ɑ \u1d02 b d e ə ɛ ɜ g"),
   (0x1d4f, "k m ŋ o ɔ \u1d16 \u1d17 p t u \u1d1d ɯ v \u1d25 β γ δ φ χ i r u v β γ"),
   (0x1d68, "ρ φ χ"), (0x1d78, "н"),
   (0x1d9b, "ɒ c ɕ ð ɜ f ɟ ɡ ɥ ɨ ɩ ɪ \u1d7b ʝ ɭ \u1d85 ʟ ɱ ɰ ɲ ɳ ɴ ɵ ɸ ʂ ʃ ƫ ʉ ʊ"),
   (0x1db8, "\u1d1c ʋ ʌ z ʐ ʑ ʒ θ"), (0x1e9a, "a\u02be ṡ"), (0x1f71, "ά"), (0x1f73, "έ"),
   (0x1f75, "ή"), (0x1f77, "ί"), (0x1f79, "ό"), (0x1f7b, "ύ"), (0x1f7d, "ώ"), (0x1fbb, "Ά"),
   (0x1fbe, "ι"), (0x1fc9, "Έ"), (0x1fcb, "Ή"), (0x1fd3, "ΐ"), (0x1fdb, "Ί"), (0x1fe3, "ΰ"),
   (0x1feb, "Ύ"), (0x1ff9, "Ό"), (0x1ffb, "Ώ"), (0x2071, "i"), (0x207f, "n"),
   (0x2090, "a e o x ə h k l m n p s t"), (0x2102, "C"), (0x2107, "Ɛ"),
   (0x210a, "g H H H h ħ I I L l"), (0x2115, "N"), (0x2119, "P Q R R R"), (0x2124, "Z"),
   (0x2126, "Ω"), (0x2128, "Z"), (0x212a, "K Å B C"), (0x212f, "e E F"),
   (0x2133, "M o \u05d0 \u05d1 \u05d2 \u05d3 i"), (0x213c, "π γ Γ Π"), (0x2145, "D d e i j"),
   (0x2160, "I II III IV V VI VII VIII IX X XI XII L C D M i ii iii iv v vi vii"),
   (0x2177, "viii ix x xi xii l c d m"), (0x2c7c, "j V"), (0x2d6f, "\u2d61"), (0x3038, "十 卄 卅"),
   (0x309f, "より"), (0x30ff, "コト"),
   (0x3131, "\u1100 \u1101 \u11aa \u1102 \u11ac \u11ad \u1103 \u1104 \u1105 \u11b0"),
   (0x313b, "\u11b1 \u11b2 \u11b3 \u11b4 \u11b5 \u111a \u1106 \u1107 \u1108 \u1121"),
   (0x3145, "\u1109 \u110a \u110b \u110c \u110d \u110e \u110f \u1110 \u1111 \u1112"),
   (0x314f, "\u1161 \u1162 \u1163 \u1164 \u1165 \u1166 \u1167 \u1168 \u1169 \u116a"),
   (0x3159, "\u116b \u116c \u116d \u116e \u116f \u1170 \u1171 \u1172 \u1173 \u1174"),
   (0x3163, "\u1175 \u1160 \u1114 \u1115 \u11c7 \u11c8 \u11cc \u11ce \u11d3 \u11d7"),
   (0x316d, "\u11d9 \u111c \u11dd \u11df \u111d \u111e \u1120 \u1122 \u1123 \u1127"),
   (0x3177, "\u1129 \u112b \u112c \u112d \u112e \u112f \u1132 \u1136 \u1140 \u1147"),
   (0x3181, "\u114c \u11f1 \u11f2 \u1157 \u1158 \u1159 \u1184 \u1185 \u1188 \u1191"),
   (0x318b, "\u1192 \u1194 \u119e \u11a1"), (0xa69c, "ъ ь"), (0xa770, "ꝯ"), (0xa7f2, "C F Q"),
   (0xa7f8, "Ħ œ"), (0xab5c, "ꜧ ꬷ ɫ ꭒ"), (0xab69, "ʍ"),
   (0xf900, "豈 更 車 賈 滑 串 句 龜 龜 契 金 喇 奈 懶 癩 羅 蘿 螺 裸 邏 樂 洛 烙 珞 落 酪 駱 亂 卵 欄 爛 蘭 鸞 嵐 濫"),
   (0xf923, "藍 襤 拉 臘 蠟 廊 朗 浪 狼 郎 來 冷 勞 擄 櫓 爐 盧 老 蘆 虜 路 露 魯 鷺 碌 祿 綠 菉 錄 鹿 論 壟 弄 籠 聾"),
   (0xf946, "牢 磊 賂 雷 壘 屢 樓 淚 漏 累 縷 陋 勒 肋 凜 凌 稜 綾 菱 陵 讀 拏 樂 諾 丹 寧 怒 率 異 北 磻 便 復 不 泌"),
   (0xf969, "數 索 參 塞 省 葉 說 殺 辰 沈 拾 若 掠 略 亮 兩 凉 梁 糧 良 諒 量 勵 呂 女 廬 旅 濾 礪 閭 驪 麗 黎 力 曆"),
   (0xf98c, "歷 轢 年 憐 戀 撚 漣 煉 璉 秊 練 聯 輦 蓮 連 鍊 列 劣 咽 烈 裂 說 廉 念 捻 殮 簾 獵 令 囹 寧 嶺 怜 玲 瑩"),
   (0xf9af, "羚 聆 鈴 零 靈 領 例 禮 醴 隸 惡 了 僚 寮 尿 料 樂 燎 療 蓼 遼 龍 暈 阮 劉 杻 柳 流 溜 琉 留 硫 紐 類 六"),
   (0xf9d2, "戮 陸 倫 崙 淪 輪 律 慄 栗 率 隆 利 吏 履 易 李 梨 泥 理 痢 罹 裏 裡 里 離 匿 溺 吝 燐 璘 藺 隣 鱗 麟 林"),
   (0xf9f5, "淋 臨 立 笠 粒 狀 炙 識 什 茶 刺 切 度 拓 糖 宅 洞 暴 輻 行 降 見 廓 兀 嗀"), (0xfa10, "塚"), (0xfa12, "晴"),
   (0xfa15, "凞 猪 益 礼 神 祥 福 靖 精 羽"), (0xfa20, "蘒"), (0xfa22, "諸"), (0xfa25, "逸 都"),
   (0xfa2a, "飯 飼 館 鶴 郞 隷 侮 僧 免 勉 勤 卑 喝 嘆 器 塀 墨 層 屮 悔 慨 憎 懲 敏 既 暑 梅 海 渚 漢 煮 爫 琢 碑 社"),
   (0xfa4d, "祉 祈 祐 祖 祝 禍 禎 穀 突 節 練 縉 繁 署 者 臭 艹 艹 著 褐 視 謁 謹 賓 贈 辶 逸 難 響 頻 恵 𤋮 舘"),
   (0xfa70, "並 况 全 侀 充 冀 勇 勺 喝 啕 喙 嗢 塚 墳 奄 奔 婢 嬨 廒 廙 彩 徭 惘 慎 愈 憎 慠 懲 戴 揄 搜 摒 敖 晴 朗"),
   (0xfa93, "望 杖 歹 殺 流 滛 滋 漢 瀞 煮 瞧 爵 犯 猪 瑱 甆 画 瘝 瘟 益 盛 直 睊 着 磌 窱 節 类 絛 練 缾 者 荒 華 蝹"),
   (0xfab6, "襁 覆 視 調 諸 請 謁 諾 諭 謹 變 贈 輸 遲 醙 鉶 陼 難 靖 韛 響 頋 頻 鬒 龜 𢡊 𢡄 𣏕 㮝 䀘 䀹 𥉉 𥳐 𧻓 齃"),
   (0xfad9, "龎"), (0xfb00, "ff fi fl ffi ffl st st"),
   (0xfb13, "\u0574\u0576 \u0574\u0565 \u0574\u056b \u057e\u0576 \u0574\u056d"),
   (0xfb1d, "\u05d9\u05b4"),
   (0xfb1f, "\u05f2\u05b7 \u05e2 \u05d0 \u05d3 \u05d4 \u05db \u05dc \u05dd \u05e8"),
   (0xfb28, "\u05ea"),
   (0xfb2a, "\u05e9\u05c1 \u05e9\u05c2 \u05e9\u05bc\u05c1 \u05e9\u05bc\u05c2"),
   (0xfb2e, "\u05d0\u05b7 \u05d0\u05b8 \u05d0\u05bc \u05d1\u05bc \u05d2\u05bc"),
   (0xfb33, "\u05d3\u05bc \u05d4\u05bc \u05d5\u05bc \u05d6\u05bc"),
   (0xfb38, "\u05d8\u05bc \u05d9\u05bc \u05da\u05bc \u05db\u05bc \u05dc\u05bc"),
   (0xfb3e, "\u05de\u05bc"), (0xfb40, "\u05e0\u05bc \u05e1\u05bc"),
   (0xfb43, "\u05e3\u05bc \u05e4\u05bc"),
   (0xfb46, "\u05e6\u05bc \u05e7\u05bc \u05e8\u05bc \u05e9\u05bc \u05ea\u05bc"),
   (0xfb4b, "\u05d5\u05b9 \u05d1\u05bf \u05db\u05bf \u05e4\u05bf \u05d0\u05dc"),
   (0xfb50, "\u0671 \u0671 \u067b \u067b \u067b \u067b \u067e \u067e \u067e \u067e"),
   (0xfb5a, "\u0680 \u0680 \u0680 \u0680 \u067a \u067a \u067a \u067a \u067f \u067f"),
   (0xfb64, "\u067f \u067f \u0679 \u0679 \u0679 \u0679 \u06a4 \u06a4 \u06a4 \u06a4"),
   (0xfb6e, "\u06a6 \u06a6 \u06a6 \u06a6 \u0684 \u0684 \u0684 \u0684 \u0683 \u0683"),
   (0xfb78, "\u0683 \u0683 \u0686 \u0686 \u0686 \u0686 \u0687 \u0687 \u0687 \u0687"),
   (0xfb82, "\u068d \u068d \u068c \u068c \u068e \u068e \u0688 \u0688 \u0698 \u0698"),
   (0xfb8c, "\u0691 \u0691 \u06a9 \u06a9 \u06a9 \u06a9 \u06af \u06af \u06af \u06af"),
   (0xfb96, "\u06b3 \u06b3 \u06b3 \u06b3 \u06b1 \u06b1 \u06b1 \u06b1 \u06ba \u06ba"),
   (0xfba0, "\u06bb \u06bb \u06bb \u06bb \u06c0 \u06c0 \u06c1 \u06c1 \u06c1 \u06c1"),
   (0xfbaa, "\u06be \u06be \u06be \u06be \u06d2 \u06d2 \u06d3 \u06d3"),
   (0xfbd3, "\u06ad \u06ad \u06ad \u06ad \u06c7 \u06c7 \u06c6 \u06c6 \u06c8 \u06c8"),
   (0xfbdd, "\u06c7\u0674 \u06cb \u06cb \u06c5 \u06c5 \u06c9 \u06c9 \u06d0 \u06d0"),
   (0xfbe6, "\u06d0 \u06d0 \u0649 \u0649 \u0626\u0627 \u0626\u0627 \u0626\u06d5"),
   (0xfbed, "\u0626\u06d5 \u0626\u0648 \u0626\u0648 \u0626\u06c7 \u0626\u06c7"),
   (0xfbf2, "\u0626\u06c6 \u0626\u06c6 \u0626\u06c8 \u0626\u06c8 \u0626\u06d0"),
   (0xfbf7, "\u0626\u06d0 \u0626\u06d0 \u0626\u0649 \u0626\u0649 \u0626\u0649"),
   (0xfbfc, "\u06cc \u06cc \u06cc \u06cc \u0626\u062c \u0626\u062d \u0626\u0645"),
   (0xfc03, "\u0626\u0649 \u0626\u064a \u0628\u062c \u0628\u062d \u0628\u062e"),
   (0xfc08, "\u0628\u0645 \u0628\u0649 \u0628\u064a \u062a\u062c \u062a\u062d"),
   (0xfc0d, "\u062a\u062e \u062a\u0645 \u062a\u0649 \u062a\u064a \u062b\u062c"),
   (0xfc12, "\u062b\u0645 \u062b\u0649 \u062b\u064a \u062c\u062d \u062c\u0645"),
   (0xfc17, "\u062d\u062c \u062d\u0645 \u062e\u062c \u062e\u062d \u062e\u0645"),
   (0xfc1c, "\u0633\u062c \u0633\u062d \u0633\u062e \u0633\u0645 \u0635\u062d"),
   (0xfc21, "\u0635\u0645 \u0636\u062c \u0636\u062d \u0636\u062e \u0636\u0645"),
   (0xfc26, "\u0637\u062d \u0637\u0645 \u0638\u0645 \u0639\u062c \u0639\u0645"),
   (0xfc2b, "\u063a\u062c \u063a\u0645 \u0641\u062c \u0641\u062d \u0641\u062e"),
   (0xfc30, "\u0641\u0645 \u0641\u0649 \u0641\u064a \u0642\u062d \u0642\u0645"),
   (0xfc35, "\u0642\u0649 \u0642\u064a \u0643\u0627 \u0643\u062c \u0643\u062d"),
   (0xfc3a, "\u0643\u062e \u0643\u0644 \u0643\u0645 \u0643\u0649 \u0643\u064a"),
   (0xfc3f, "\u0644\u062c \u0644\u062d \u0644\u062e \u0644\u0645 \u0644\u0649"),
   (0xfc44, "\u0644\u064a \u0645\u062c \u0645\u062d \u0645\u062e \u0645\u0645"),
   (0xfc49, "\u0645\u0649 \u0645\u064a \u0646\u062c \u0646\u062d \u0646\u062e"),
   (0xfc4e, "\u0646\u0645 \u0646\u0649 \u0646\u064a \u0647\u062c \u0647\u0645"),
   (0xfc53, "\u0647\u0649 \u0647\u064a \u064a\u062c \u064a\u062d \u064a\u062e"),
   (0xfc58, "\u064a\u0645 \u064a\u0649 \u064a\u064a \u0630\u0670 \u0631\u0670"),
   (0xfc5d, "\u0649\u0670"),
   (0xfc64, "\u0626\u0631 \u0626\u0632 \u0626\u0645 \u0626\u0646 \u0626\u0649"),
   (0xfc69, "\u0626\u064a \u0628\u0631 \u0628\u0632 \u0628\u0645 \u0628\u0646"),
   (0xfc6e, "\u0628\u0649 \u0628\u064a \u062a\u0631 \u062a\u0632 \u062a\u0645"),
   (0xfc73, "\u062a\u0646 \u062a\u0649 \u062a\u064a \u062b\u0631 \u062b\u0632"),
   (0xfc78, "\u062b\u0645 \u062b\u0646 \u062b\u0649 \u062b\u064a \u0641\u0649"),
   (0xfc7d, "\u0641\u064a \u0642\u0649 \u0642\u064a \u0643\u0627 \u0643\u0644"),
   (0xfc82, "\u0643\u0645 \u0643\u0649 \u0643\u064a \u0644\u0645 \u0644\u0649"),
   (0xfc87, "\u0644\u064a \u0645\u0627 \u0645\u0645 \u0646\u0631 \u0646\u0632"),
   (0xfc8c, "\u0646\u0645 \u0646\u0646 \u0646\u0649 \u0646\u064a \u0649\u0670"),
   (0xfc91, "\u064a\u0631 \u064a\u0632 \u064a\u0645 \u064a\u0646 \u064a\u0649"),
   (0xfc96, "\u064a\u064a \u0626\u062c \u0626\u062d \u0626\u062e \u0626\u0645"),
   (0xfc9b, "\u0626\u0647 \u0628\u062c \u0628\u062d \u0628\u062e \u0628\u0645"),
   (0xfca0, "\u0628\u0647 \u062a\u062c \u062a\u062d \u062a\u062e \u062a\u0645"),
   (0xfca5, "\u062a\u0647 \u062b\u0645 \u062c\u062d \u062c\u0645 \u062d\u062c"),
   (0xfcaa, "\u062d\u0645 \u062e\u062c \u062e\u0645 \u0633\u062c \u0633\u062d"),
   (0xfcaf, "\u0633\u062e \u0633\u0645 \u0635\u062d \u0635\u062e \u0635\u0645"),
   (0xfcb4, "\u0636\u062c \u0636\u062d \u0636\u062e \u0636\u0645 \u0637\u062d"),
   (0xfcb9, "\u0638\u0645 \u0639\u062c \u0639\u0645 \u063a\u062c \u063a\u0645"),
   (0xfcbe, "\u0641\u062c \u0641\u062d \u0641\u062e \u0641\u0645 \u0642\u062d"),
   (0xfcc3, "\u0642\u0645 \u0643\u062c \u0643\u062d \u0643\u062e \u0643\u0644"),
   (0xfcc8, "\u0643\u0645 \u0644\u062c \u0644\u062d \u0644\u062e \u0644\u0645"),
   (0xfccd, "\u0644\u0647 \u0645\u062c \u0645\u062d \u0645\u062e \u0645\u0645"),
   (0xfcd2, "\u0646\u062c \u0646\u062d \u0646\u062e \u0646\u0645 \u0646\u0647"),
   (0xfcd7, "\u0647\u062c \u0647\u0645 \u0647\u0670 \u064a\u062c \u064a\u062d"),
   (0xfcdc, "\u064a\u062e \u064a\u0645 \u064a\u0647 \u0626\u0645 \u0626\u0647"),
   (0xfce1, "\u0628\u0645 \u0628\u0647 \u062a\u0645 \u062a\u0647 \u062b\u0645"),
   (0xfce6, "\u062b\u0647 \u0633\u0645 \u0633\u0647 \u0634\u0645 \u0634\u0647"),
   (0xfceb, "\u0643\u0644 \u0643\u0645 \u0644\u0645 \u0646\u0645 \u0646\u0647"),
   (0xfcf0, "\u064a\u0645 \u064a\u0647 \u0640\u064e\u0651 \u0640\u064f\u0651"),
   (0xfcf4, "\u0640\u0650\u0651 \u0637\u0649 \u0637\u064a \u0639\u0649 \u0639\u064a"),
   (0xfcf9, "\u063a\u0649 \u063a\u064a \u0633\u0649 \u0633\u064a \u0634\u0649"),
   (0xfcfe, "\u0634\u064a \u062d\u0649 \u062d\u064a \u062c\u0649 \u062c\u064a"),
   (0xfd03, "\u062e\u0649 \u062e\u064a \u0635\u0649 \u0635\u064a \u0636\u0649"),
   (0xfd08, "\u0636\u064a \u0634\u062c \u0634\u062d \u0634\u062e \u0634\u0645"),
   (0xfd0d, "\u0634\u0631 \u0633\u0631 \u0635\u0631 \u0636\u0631 \u0637\u0649"),
   (0xfd12, "\u0637\u064a \u0639\u0649 \u0639\u064a \u063a\u0649 \u063a\u064a"),
   (0xfd17, "\u0633\u0649 \u0633\u064a \u0634\u0649 \u0634\u064a \u062d\u0649"),
   (0xfd1c, "\u062d\u064a \u062c\u0649 \u062c\u064a \u062e\u0649 \u062e\u064a"),
   (0xfd21, "\u0635\u0649 \u0635\u064a \u0636\u0649 \u0636\u064a \u0634\u062c"),
   (0xfd26, "\u0634\u062d \u0634\u062e \u0634\u0645 \u0634\u0631 \u0633\u0631"),
   (0xfd2b, "\u0635\u0631 \u0636\u0631 \u0634\u062c \u0634\u062d \u0634\u062e"),
   (0xfd30, "\u0634\u0645 \u0633\u0647 \u0634\u0647 \u0637\u0645 \u0633\u062c"),
   (0xfd35, "\u0633\u062d \u0633\u062e \u0634\u062c \u0634\u062d \u0634\u062e"),
   (0xfd3a, "\u0637\u0645 \u0638\u0645 \u0627\u064b \u0627\u064b"),
   (0xfd50, "\u062a\u062c\u0645 \u062a\u062d\u062c \u062a\u062d\u062c"),
   (0xfd53, "\u062a\u062d\u0645 \u062a\u062e\u0645 \u062a\u0645\u062c"),
   (0xfd56, "\u062a\u0645\u062d \u062a\u0645\u062e \u062c\u0645\u062d"),
   (0xfd59, "\u062c\u0645\u062d \u062d\u0645\u064a \u062d\u0645\u0649"),
   (0xfd5c, "\u0633\u062d\u062c \u0633\u062c\u062d \u0633\u062c\u0649"),
   (0xfd5f, "\u0633\u0645\u062d \u0633\u0645\u062d \u0633\u0645\u062c"),
   (0xfd62, "\u0633\u0645\u0645 \u0633\u0645\u0645 \u0635\u062d\u062d"),
   (0xfd65, "\u0635\u062d\u062d \u0635\u0645\u0645 \u0634\u062d\u0645"),
   (0xfd68, "\u0634\u062d\u0645 \u0634\u062c\u064a \u0634\u0645\u062e"),
   (0xfd6b, "\u0634\u0645\u062e \u0634\u0645\u0645 \u0634\u0645\u0645"),
   (0xfd6e, "\u0636\u062d\u0649 \u0636\u062e\u0645 \u0636\u062e\u0645"),
   (0xfd71, "\u0637\u0645\u062d \u0637\u0645\u062d \u0637\u0645\u0645"),
   (0xfd74, "\u0637\u0645\u064a \u0639\u062c\u0645 \u0639\u0645\u0645"),
   (0xfd77, "\u0639\u0645\u0645 \u0639\u0645\u0649 \u063a\u0645\u0645"),
   (0xfd7a, "\u063a\u0645\u064a \u063a\u0645\u0649 \u0641\u062e\u0645"),
   (0xfd7d, "\u0641\u062e\u0645 \u0642\u0645\u062d \u0642\u0645\u0645"),
   (0xfd80, "\u0644\u062d\u0645 \u0644\u062d\u064a \u0644\u062d\u0649"),
   (0xfd83, "\u0644\u062c\u062c \u0644\u062c\u062c \u0644\u062e\u0645"),
   (0xfd86, "\u0644\u062e\u0645 \u0644\u0645\u062d \u0644\u0645\u062d"),
   (0xfd89, "\u0645\u062d\u062c \u0645\u062d\u0645 \u0645\u062d\u064a"),
   (0xfd8c, "\u0645\u062c\u062d \u0645\u062c\u0645 \u0645\u062e\u062c"),
   (0xfd8f, "\u0645\u062e\u0645"),
   (0xfd92, "\u0645\u062c\u062e \u0647\u0645\u062c \u0647\u0645\u0645"),
   (0xfd95, "\u0646\u062d\u0645 \u0646\u062d\u0649 \u0646\u062c\u0645"),
   (0xfd98, "\u0646\u062c\u0645 \u0646\u062c\u0649 \u0646\u0645\u064a"),
   (0xfd9b, "\u0646\u0645\u0649 \u064a\u0645\u0645 \u064a\u0645\u0645"),
   (0xfd9e, "\u0628\u062e\u064a \u062a\u062c\u064a \u062a\u062c\u0649"),
   (0xfda1, "\u062a\u062e\u064a \u062a\u062e\u0649 \u062a\u0645\u064a"),
   (0xfda4, "\u062a\u0645\u0649 \u062c\u0645\u064a \u062c\u062d\u0649"),
   (0xfda7, "\u062c\u0645\u0649 \u0633\u062e\u0649 \u0635\u062d\u064a"),
   (0xfdaa, "\u0634\u062d\u064a \u0636\u062d\u064a \u0644\u062c\u064a"),
   (0xfdad, "\u0644\u0645\u064a \u064a\u062d\u064a \u064a\u062c\u064a"),
   (0xfdb0, "\u064a\u0645\u064a \u0645\u0645\u064a \u0642\u0645\u064a"),
   (0xfdb3, "\u0646\u062d\u064a \u0642\u0645\u062d \u0644\u062d\u0645"),
   (0xfdb6, "\u0639\u0645\u064a \u0643\u0645\u064a \u0646\u062c\u062d"),
   (0xfdb9, "\u0645\u062e\u064a \u0644\u062c\u0645 \u0643\u0645\u0645"),
   (0xfdbc, "\u0644\u062c\u0645 \u0646\u062c\u062d \u062c\u062d\u064a"),
   (0xfdbf, "\u062d\u062c\u064a \u0645\u062c\u064a \u0641\u0645\u064a"),
   (0xfdc2, "\u0628\u062d\u064a \u0643\u0645\u0645 \u0639\u062c\u0645"),
   (0xfdc5, "\u0635\u0645\u0645 \u0633\u062e\u064a \u0646\u062c\u064a"),
   (0xfdf0, "\u0635\u0644\u06d2 \u0642\u0644\u06d2 \u0627\u0644\u0644\u0647"),
   (0xfdf3, "\u0627\u0643\u0628\u0631 \u0645\u062d\u0645\u062f"),
   (0xfdf5, "\u0635\u0644\u0639\u0645 \u0631\u0633\u0648\u0644"),
   (0xfdf7, "\u0639\u0644\u064a\u0647 \u0648\u0633\u0644\u0645 \u0635\u0644\u0649"),
   (0xfe33, "_ _"), (0xfe4d, "_ _ _"), (0xfe71, "\u0640\u064b"), (0xfe77, "\u0640\u064e"),
   (0xfe79, "\u0640\u064f"), (0xfe7b, "\u0640\u0650"), (0xfe7d, "\u0640\u0651"),
   (0xfe7f, "\u0640\u0652 \u0621 \u0622 \u0622 \u0623 \u0623 \u0624 \u0624 \u0625"),
   (0xfe88, "\u0625 \u0626 \u0626 \u0626 \u0626 \u0627 \u0627 \u0628 \u0628 \u0628"),
   (0xfe92, "\u0628 \u0629 \u0629 \u062a \u062a \u062a \u062a \u062b \u062b \u062b"),
   (0xfe9c, "\u062b \u062c \u062c \u062c \u062c \u062d \u062d \u062d \u062d \u062e"),
   (0xfea6, "\u062e \u062e \u062e \u062f \u062f \u0630 \u0630 \u0631 \u0631 \u0632"),
   (0xfeb0, "\u0632 \u0633 \u0633 \u0633 \u0633 \u0634 \u0634 \u0634 \u0634 \u0635"),
   (0xfeba, "\u0635 \u0635 \u0635 \u0636 \u0636 \u0636 \u0636 \u0637 \u0637 \u0637"),
   (0xfec4, "\u0637 \u0638 \u0638 \u0638 \u0638 \u0639 \u0639 \u0639 \u0639 \u063a"),
   (0xfece, "\u063a \u063a \u063a \u0641 \u0641 \u0641 \u0641 \u0642 \u0642 \u0642"),
   (0xfed8, "\u0642 \u0643 \u0643 \u0643 \u0643 \u0644 \u0644 \u0644 \u0644 \u0645"),
   (0xfee2, "\u0645 \u0645 \u0645 \u0646 \u0646 \u0646 \u0646 \u0647 \u0647 \u0647"),
   (0xfeec, "\u0647 \u0648 \u0648 \u0649 \u0649 \u064a \u064a \u064a \u064a"),
   (0xfef5, "\u0644\u0622 \u0644\u0622 \u0644\u0623 \u0644\u0623 \u0644\u0625"),
   (0xfefa, "\u0644\u0625 \u0644\u0627 \u0644\u0627"), (0xff10, "0 1 2 3 4 5 6 7 8 9"),
   (0xff21, "A B C D E F G H I J K L M N O P Q R S T U V W X Y Z"), (0xff3f, "_"),
   (0xff41, "a b c d e f g h i j k l m n o p q r s t u v w x y z"),
   (0xff66, "ヲ ァ ィ ゥ ェ ォ ャ ュ ョ ッ \u30fc ア イ ウ エ オ カ キ ク ケ コ サ シ ス セ ソ タ チ ツ テ ト ナ ニ"),
   (0xff87, "ヌ ネ ノ ハ ヒ フ ヘ ホ マ ミ ム メ モ ヤ ユ ヨ ラ リ ル レ ロ ワ ン \u3099 \u309a \u1160"),
   (0xffa1, "\u1100 \u1101 \u11aa \u1102 \u11ac \u11ad \u1103 \u1104 \u1105 \u11b0"),
   (0xffab, "\u11b1 \u11b2 \u11b3 \u11b4 \u11b5 \u111a \u1106 \u1107 \u1108 \u1121"),
   (0xffb5, "\u1109 \u110a \u110b \u110c \u110d \u110e \u110f \u1110 \u1111 \u1112"),
   (0xffc2, "\u1161 \u1162 \u1163 \u1164 \u1165 \u1166"),
   (0xffca, "\u1167 \u1168 \u1169 \u116a \u116b \u116c"),
   (0xffd2, "\u116d \u116e \u116f \u1170 \u1171 \u1172"), (0xffda, "\u1173 \u1174 \u1175"),
   (0x10781, "\u02d0 \u02d1 æ ʙ ɓ"),
   (0x10787, "ʣ ꭦ ʥ ʤ ɖ ɗ \u1d91 ɘ ɞ ʩ ɤ ɢ ɠ ʛ ħ ʜ ɧ ʄ ʪ ʫ ɬ 𝼄 ꞎ ɮ 𝼅 ʎ 𝼆 ø ɶ ɷ q ɺ 𝼈"),
   (0x107a8, "ɽ ɾ ʀ ʨ ʦ ꭧ ʧ ʈ \u2c71"), (0x107b2, "ʏ ʡ ʢ ʘ ǀ ǁ ǂ 𝼊 𝼞"),
   (0x1d400, "A B C D E F G H I J K L M N O P Q R S T U V W X Y Z a b c d e f g h i"),
   (0x1d423, "j k l m n o p q r s t u v w x y z A B C D E F G H I J K L M N O P Q R"),
   (0x1d446, "S T U V W X Y Z a b c d e f g"),
   (0x1d456, "i j k l m n o p q r s t u v w x y z A B C D E F G H I J K L M N O P Q"),
   (0x1d479, "R S T U V W X Y Z a b c d e f g h i j k l m n o p q r s t u v w x y z"),
   (0x1d49c, "A"), (0x1d49e, "C D"), (0x1d4a2, "G"), (0x1d4a5, "J K"), (0x1d4a9, "N O P Q"),
   (0x1d4ae, "S T U V W X Y Z a b c d"), (0x1d4bb, "f"), (0x1d4bd, "h i j k l m n"),
   (0x1d4c5, "p q r s t u v w x y z A B C D E F G H I J K L M N O P Q R S T U V W X"),
   (0x1d4e8, "Y Z a b c d e f g h i j k l m n o p q r s t u v w x y z A B"), (0x1d507, "D E F G"),
   (0x1d50d, "J K L M N O P Q"), (0x1d516, "S T U V W X Y"),
   (0x1d51e, "a b c d e f g h i j k l m n o p q r s t u v w x y z A B"), (0x1d53b, "D E F G"),
   (0x1d540, "I J K L M"), (0x1d546, "O"), (0x1d54a, "S T U V W X Y"),
   (0x1d552, "a b c d e f g h i j k l m n o p q r s t u v w x y z A B C D E F G H I"),
   (0x1d575, "J K L M N O P Q R S T U V W X Y Z a b c d e f g h i j k l m n o p q r"),
   (0x1d598, "s t u v w x y z A B C D E F G H I J K L M N O P Q R S T U V W X Y Z a"),
   (0x1d5bb, "b c d e f g h i j k l m n o p q r s t u v w x y z A B C D E F G H I J"),
   (0x1d5de, "K L M N O P Q R S T U V W X Y Z a b c d e f g h i j k l m n o p q r s"),
   (0x1d601, "t u v w x y z A B C D E F G H I J K L M N O P Q R S T U V W X Y Z a b"),
   (0x1d624, "c d e f g h i j k l m n o p q r s t u v w x y z A B C D E F G H I J K"),
   (0x1d647, "L M N O P Q R S T U V W X Y Z a b c d e f g h i j k l m n o p q r s t"),
   (0x1d66a, "u v w x y z A B C D E F G H I J K L M N O P Q R S T U V W X Y Z a b c"),
   (0x1d68d, "d e f g h i j k l m n o p q r s t u v w x y z ı ȷ"),
   (0x1d6a8, "Α Β Γ Δ Ε Ζ Η Θ Ι Κ Λ Μ Ν Ξ Ο Π Ρ Θ Σ Τ Υ Φ Χ Ψ Ω"),
   (0x1d6c2, "α β γ δ ε ζ η θ ι κ λ μ ν ξ ο π ρ ς σ τ υ φ χ ψ ω"),
   (0x1d6dc, "ε θ κ φ ρ π Α Β Γ Δ Ε Ζ Η Θ Ι Κ Λ Μ Ν Ξ Ο Π Ρ Θ Σ Τ Υ Φ Χ Ψ Ω"),
   (0x1d6fc, "α β γ δ ε ζ η θ ι κ λ μ ν ξ ο π ρ ς σ τ υ φ χ ψ ω"),
   (0x1d716, "ε θ κ φ ρ π Α Β Γ Δ Ε Ζ Η Θ Ι Κ Λ Μ Ν Ξ Ο Π Ρ Θ Σ Τ Υ Φ Χ Ψ Ω"),
   (0x1d736, "α β γ δ ε ζ η θ ι κ λ μ ν ξ ο π ρ ς σ τ υ φ χ ψ ω"),
   (0x1d750, "ε θ κ φ ρ π Α Β Γ Δ Ε Ζ Η Θ Ι Κ Λ Μ Ν Ξ Ο Π Ρ Θ Σ Τ Υ Φ Χ Ψ Ω"),
   (0x1d770, "α β γ δ ε ζ η θ ι κ λ μ ν ξ ο π ρ ς σ τ υ φ χ ψ ω"),
   (0x1d78a, "ε θ κ φ ρ π Α Β Γ Δ Ε Ζ Η Θ Ι Κ Λ Μ Ν Ξ Ο Π Ρ Θ Σ Τ Υ Φ Χ Ψ Ω"),
   (0x1d7aa, "α β γ δ ε ζ η θ ι κ λ μ ν ξ ο π ρ ς σ τ υ φ χ ψ ω"), (0x1d7c4, "ε θ κ φ ρ π Ϝ ϝ"),
   (0x1d7ce, "0 1 2 3 4 5 6 7 8 9 0 1 2 3 4 5 6 7 8 9 0 1 2 3 4 5 6 7 8 9 0 1 2 3 4"),
   (0x1d7f1, "5 6 7 8 9 0 1 2 3 4 5 6 7 8 9"), (0x1ee00, "\u0627 \u0628 \u062c \u062f"),
   (0x1ee05, "\u0648 \u0632 \u062d \u0637 \u064a \u0643 \u0644 \u0645 \u0646 \u0633"),
   (0x1ee0f, "\u0639 \u0641 \u0635 \u0642 \u0631 \u0634 \u062a \u062b \u062e \u0630"),
   (0x1ee19, "\u0636 \u0638 \u063a \u066e \u06ba \u06a1 \u066f"), (0x1ee21, "\u0628 \u062c"),
   (0x1ee24, "\u0647"), (0x1ee27, "\u062d"),
   (0x1ee29, "\u064a \u0643 \u0644 \u0645 \u0646 \u0633 \u0639 \u0641 \u0635 \u0642"),
   (0x1ee34, "\u0634 \u062a \u062b \u062e"), (0x1ee39, "\u0636"), (0x1ee3b, "\u063a"),
   (0x1ee42, "\u062c"), (0x1ee47, "\u062d"), (0x1ee49, "\u064a"), (0x1ee4b, "\u0644"),
   (0x1ee4d, "\u0646 \u0633 \u0639"), (0x1ee51, "\u0635 \u0642"), (0x1ee54, "\u0634"),
   (0x1ee57, "\u062e"), (0x1ee59, "\u0636"), (0x1ee5b, "\u063a"), (0x1ee5d, "\u06ba"),
   (0x1ee5f, "\u066f"), (0x1ee61, "\u0628 \u062c"), (0x1ee64, "\u0647"),
   (0x1ee67, "\u062d \u0637 \u064a \u0643"),
   (0x1ee6c, "\u0645 \u0646 \u0633 \u0639 \u0641 \u0635 \u0642"),
   (0x1ee74, "\u0634 \u062a \u062b \u062e"), (0x1ee79, "\u0636 \u0638 \u063a \u066e"),
   (0x1ee7e, "\u06a1"),
   (0x1ee80, "\u0627 \u0628 \u062c \u062f \u0647 \u0648 \u0632 \u062d \u0637 \u064a"),
   (0x1ee8b, "\u0644 \u0645 \u0646 \u0633 \u0639 \u0641 \u0635 \u0642 \u0631 \u0634"),
   (0x1ee95, "\u062a \u062b \u062e \u0630 \u0636 \u0638 \u063a"),
   (0x1eea1, "\u0628 \u062c \u062f"), (0x1eea5, "\u0648 \u0632 \u062d \u0637 \u064a"),
   (0x1eeab, "\u0644 \u0645 \u0646 \u0633 \u0639 \u0641 \u0635 \u0642 \u0631 \u0634"),
   (0x1eeb5, "\u062a \u062b \u062e \u0630 \u0636 \u0638 \u063a"),
   (0x1fbf0, "0 1 2 3 4 5 6 7 8 9"),
   (0x2f800, "丽 丸 乁 𠄢 你 侮 侻 倂 偺 備 僧 像 㒞 𠘺 免 兔 兤 具 𠔜 㒹 內 再 𠕋 冗 冤 仌 冬 况 𩇟 凵 刃 㓟 刻 剆 割"),
   (0x2f823, "剷 㔕 勇 勉 勤 勺 包 匆 北 卉 卑 博 即 卽 卿 卿 卿 𠨬 灰 及 叟 𠭣 叫 叱 吆 咞 吸 呈 周 咢 哶 唐 啓 啣 善"),
   (0x2f846, "善 喙 喫 喳 嗂 圖 嘆 圗 噑 噴 切 壮 城 埴 堍 型 堲 報 墬 𡓤 売 壷 夆 多 夢 奢 𡚨 𡛪 姬 娛 娧 姘 婦 㛮 㛼"),
   (0x2f869, "嬈 嬾 嬾 𡧈 寃 寘 寧 寳 𡬘 寿 将 当 尢 㞁 屠 屮 峀 岍 𡷤 嵃 𡷦 嵮 嵫 嵼 巡 巢 㠯 巽 帨 帽 幩 㡢 𢆃 㡼 庰"),
   (0x2f88c, "庳 庶 廊 𪎒 廾 𢌱 𢌱 舁 弢 弢 㣇 𣊸 𦇚 形 彫 㣣 徚 忍 志 忹 悁 㤺 㤜 悔 𢛔 惇 慈 慌 慎 慌 慺 憎 憲 憤 憯"),
   (0x2f8af, "懞 懲 懶 成 戛 扝 抱 拔 捐 𢬌 挽 拼 捨 掃 揤 𢯱 搢 揅 掩 㨮 摩 摾 撝 摷 㩬 敏 敬 𣀊 旣 書 晉 㬙 暑 㬈 㫤"),
   (0x2f8d2, "冒 冕 最 暜 肭 䏙 朗 望 朡 杞 杓 𣏃 㭉 柺 枅 桒 梅 𣑭 梎 栟 椔 㮝 楂 榣 槪 檨 𣚣 櫛 㰘 次 𣢧 歔 㱎 歲 殟"),
   (0x2f8f5, "殺 殻 𣪍 𡴋 𣫺 汎 𣲼 沿 泍 汧 洖 派 海 流 浩 浸 涅 𣴞 洴 港 湮 㴳 滋 滇 𣻑 淹 潮 𣽞 𣾎 濆 瀹 瀞 瀛 㶖 灊"),
   (0x2f918, "災 灷 炭 𠔥 煅 𤉣 熜 𤎫 爨 爵 牐 𤘈 犀 犕 𤜵 𤠔 獺 王 㺬 玥 㺸 㺸 瑇 瑜 瑱 璅 瓊 㼛 甤 𤰶 甾 𤲒 異 𢆟 瘐"),
   (0x2f93b, "𤾡 𤾸 𥁄 㿼 䀈 直 𥃳 𥃲 𥄙 𥄳 眞 真 真 睊 䀹 瞋 䁆 䂖 𥐝 硎 碌 磌 䃣 𥘦 祖 𥚚 𥛅 福 秫 䄯 穀 穊 穏 𥥼 𥪧"),
   (0x2f95e, "𥪧 竮 䈂 𥮫 篆 築 䈧 𥲀 糒 䊠 糨 糣 紀 𥾆 絣 䌁 緇 縂 繅 䌴 𦈨 𦉇 䍙 𦋙 罺 𦌾 羕 翺 者 𦓚 𦔣 聠 𦖨 聰 𣍟"),
   (0x2f981, "䏕 育 脃 䐋 脾 媵 𦞧 𦞵 𣎓 𣎜 舁 舄 辞 䑫 芑 芋 芝 劳 花 芳 芽 苦 𦬼 若 茝 荣 莭 茣 莽 菧 著 荓 菊 菌 菜"),
   (0x2f9a4, "𦰶 𦵫 𦳕 䔫 蓱 蓳 蔖 𧏊 蕤 𦼬 䕝 䕡 𦾱 𧃒 䕫 虐 虜 虧 虩 蚩 蚈 蜎 蛢 蝹 蜨 蝫 螆 䗗 蟡 蠁 䗹 衠 衣 𧙧 裗"),
   (0x2f9c7, "裞 䘵 裺 㒻 𧢮 𧥦 䚾 䛇 誠 諭 變 豕 𧲨 貫 賁 贛 起 𧼯 𠠄 跋 趼 跰 𠣞 軔 輸 𨗒 𨗭 邔 郱 鄑 𨜮 鄛 鈸 鋗 鋘"),
   (0x2f9ea, "鉼 鏹 鐕 𨯺 開 䦕 閷 𨵷 䧦 雃 嶲 霣 𩅅 𩈚 䩮 䩶 韠 𩐊 䪲 𩒖 頋 頋 頩 𩖶 飢 䬳 餩 馧 駂 駾 䯎 𩬰 鬒 鱀 鳽"),
   (0x2fa0d, "䳎 䳭 鵧 𪃎 䳸 𪄅 𪈎 𪊑 麻 䵖 黹 黾 鼅 鼏 鼖 鼻 𪘀")]

/-- The base and the mark of which a character is made. -/
def compositeRows : Rows :=
  [(0xc0, "A\u0300 A\u0301 A\u0302 A\u0303 A\u0308 A\u030a"),
   (0xc7, "C\u0327 E\u0300 E\u0301 E\u0302 E\u0308 I\u0300 I\u0301 I\u0302"), (0xcf, "I\u0308"),
   (0xd1, "N\u0303 O\u0300 O\u0301 O\u0302 O\u0303 O\u0308"),
   (0xd9, "U\u0300 U\u0301 U\u0302 U\u0308 Y\u0301"),
   (0xe0, "a\u0300 a\u0301 a\u0302 a\u0303 a\u0308 a\u030a"),
   (0xe7, "c\u0327 e\u0300 e\u0301 e\u0302 e\u0308 i\u0300 i\u0301 i\u0302"), (0xef, "i\u0308"),
   (0xf1, "n\u0303 o\u0300 o\u0301 o\u0302 o\u0303 o\u0308"),
   (0xf9, "u\u0300 u\u0301 u\u0302 u\u0308 y\u0301"),
   (0xff, "y\u0308 A\u0304 a\u0304 A\u0306 a\u0306 A\u0328 a\u0328 C\u0301"),
   (0x107, "c\u0301 C\u0302 c\u0302 C\u0307 c\u0307 C\u030c c\u030c D\u030c"), (0x10f, "d\u030c"),
   (0x112, "E\u0304 e\u0304 E\u0306 e\u0306 E\u0307 e\u0307 E\u0328 e\u0328"),
   (0x11a, "E\u030c e\u030c G\u0302 g\u0302 G\u0306 g\u0306 G\u0307 g\u0307"),
   (0x122, "G\u0327 g\u0327 H\u0302 h\u0302"),
   (0x128, "I\u0303 i\u0303 I\u0304 i\u0304 I\u0306 i\u0306 I\u0328 i\u0328"), (0x130, "I\u0307"),
   (0x134, "J\u0302 j\u0302 K\u0327 k\u0327"),
   (0x139, "L\u0301 l\u0301 L\u0327 l\u0327 L\u030c l\u030c"),
   (0x143, "N\u0301 n\u0301 N\u0327 n\u0327 N\u030c n\u030c"),
   (0x14c, "O\u0304 o\u0304 O\u0306 o\u0306 O\u030b o\u030b"),
   (0x154, "R\u0301 r\u0301 R\u0327 r\u0327 R\u030c r\u030c S\u0301 s\u0301"),
   (0x15c, "S\u0302 s\u0302 S\u0327 s\u0327 S\u030c s\u030c T\u0327 t\u0327"),
   (0x164, "T\u030c t\u030c"),
   (0x168, "U\u0303 u\u0303 U\u0304 u\u0304 U\u0306 u\u0306 U\u030a u\u030a"),
   (0x170, "U\u030b u\u030b U\u0328 u\u0328 W\u0302 w\u0302 Y\u0302 y\u0302"),
   (0x178, "Y\u0308 Z\u0301 z\u0301 Z\u0307 z\u0307 Z\u030c z\u030c"), (0x1a0, "O\u031b o\u031b"),
   (0x1af, "U\u031b u\u031b"),
   (0x1cd, "A\u030c a\u030c I\u030c i\u030c O\u030c o\u030c U\u030c u\u030c"),
   (0x1d5, "Ü\u0304 ü\u0304 Ü\u0301 ü\u0301 Ü\u030c ü\u030c Ü\u0300 ü\u0300"),
   (0x1de, "Ä\u0304 ä\u0304 Ȧ\u0304 ȧ\u0304 Æ\u0304 æ\u0304"),
   (0x1e6, "G\u030c g\u030c K\u030c k\u030c O\u0328 o\u0328 Ǫ\u0304 ǫ\u0304"),
   (0x1ee, "Ʒ\u030c ʒ\u030c j\u030c"), (0x1f4, "G\u0301 g\u0301"),
   (0x1f8, "N\u0300 n\u0300 Å\u0301 å\u0301 Æ\u0301 æ\u0301 Ø\u0301 ø\u0301"),
   (0x200, "A\u030f a\u030f A\u0311 a\u0311 E\u030f e\u030f E\u0311 e\u0311"),
   (0x208, "I\u030f i\u030f I\u0311 i\u0311 O\u030f o\u030f O\u0311 o\u0311"),
   (0x210, "R\u030f r\u030f R\u0311 r\u0311 U\u030f u\u030f U\u0311 u\u0311"),
   (0x218, "S\u0326 s\u0326 T\u0326 t\u0326"), (0x21e, "H\u030c h\u030c"),
   (0x226, "A\u0307 a\u0307 E\u0327 e\u0327 Ö\u0304 ö\u0304 Õ\u0304 õ\u0304"),
   (0x22e, "O\u0307 o\u0307 Ȯ\u0304 ȯ\u0304 Y\u0304 y\u0304"), (0x386, "Α\u0301"),
   (0x388, "Ε\u0301 Η\u0301 Ι\u0301"), (0x38c, "Ο\u0301"), (0x38e, "Υ\u0301 Ω\u0301 ϊ\u0301"),
   (0x3aa, "Ι\u0308 Υ\u0308 α\u0301 ε\u0301 η\u0301 ι\u0301 ϋ\u0301"),
   (0x3ca, "ι\u0308 υ\u0308 ο\u0301 υ\u0301 ω\u0301"), (0x3d3, "ϒ\u0301 ϒ\u0308"),
   (0x400, "Е\u0300 Е\u0308"), (0x403, "Г\u0301"), (0x407, "І\u0308"),
   (0x40c, "К\u0301 И\u0300 У\u0306"), (0x419, "И\u0306"), (0x439, "и\u0306"),
   (0x450, "е\u0300 е\u0308"), (0x453, "г\u0301"), (0x457, "і\u0308"),
   (0x45c, "к\u0301 и\u0300 у\u0306"), (0x476, "Ѵ\u030f ѵ\u030f"), (0x4c1, "Ж\u0306 ж\u0306"),
   (0x4d0, "А\u0306 а\u0306 А\u0308 а\u0308"), (0x4d6, "Е\u0306 е\u0306"),
   (0x4da, "Ә\u0308 ә\u0308 Ж\u0308 ж\u0308 З\u0308 з\u0308"),
   (0x4e2, "И\u0304 и\u0304 И\u0308 и\u0308 О\u0308 о\u0308"),
   (0x4ea, "Ө\u0308 ө\u0308 Э\u0308 э\u0308 У\u0304 у\u0304 У\u0308 у\u0308"),
   (0x4f2, "У\u030b у\u030b Ч\u0308 ч\u0308"), (0x4f8, "Ы\u0308 ы\u0308"),
   (0x622, "\u0627\u0653 \u0627\u0654 \u0648\u0654 \u0627\u0655 \u064a\u0654"),
   (0x6c0, "\u06d5\u0654"), (0x6c2, "\u06c1\u0654"), (0x6d3, "\u06d2\u0654"),
   (0x929, "\u0928\u093c"), (0x931, "\u0930\u093c"), (0x934, "\u0933\u093c"),
   (0x9cb, "\u09c7\u09be \u09c7\u09d7"), (0xb48, "\u0b47\u0b56"),
   (0xb4b, "\u0b47\u0b3e \u0b47\u0b57"), (0xb94, "\u0b92\u0bd7"),
   (0xbca, "\u0bc6\u0bbe \u0bc7\u0bbe \u0bc6\u0bd7"), (0xc48, "\u0c46\u0c56"),
   (0xcc0, "\u0cbf\u0cd5"), (0xcc7, "\u0cc6\u0cd5 \u0cc6\u0cd6"),
   (0xcca, "\u0cc6\u0cc2 \u0cca\u0cd5"), (0xd4a, "\u0d46\u0d3e \u0d47\u0d3e \u0d46\u0d57"),
   (0xdda, "\u0dd9\u0dca"), (0xddc, "\u0dd9\u0dcf \u0ddc\u0dca \u0dd9\u0ddf"),
   (0x1026, "\u1025\u102e"), (0x1b06, "\u1b05\u1b35"), (0x1b08, "\u1b07\u1b35"),
   (0x1b0a, "\u1b09\u1b35"), (0x1b0c, "\u1b0b\u1b35"), (0x1b0e, "\u1b0d\u1b35"),
   (0x1b12, "\u1b11\u1b35"), (0x1b3b, "\u1b3a\u1b35"), (0x1b3d, "\u1b3c\u1b35"),
   (0x1b40, "\u1b3e\u1b35 \u1b3f\u1b35"), (0x1b43, "\u1b42\u1b35"),
   (0x1e00, "A\u0325 a\u0325 B\u0307 b\u0307 B\u0323 b\u0323 B\u0331 b\u0331"),
   (0x1e08, "Ç\u0301 ç\u0301 D\u0307 d\u0307 D\u0323 d\u0323 D\u0331 d\u0331"),
   (0x1e10, "D\u0327 d\u0327 D\u032d d\u032d Ē\u0300 ē\u0300 Ē\u0301 ē\u0301"),
   (0x1e18, "E\u032d e\u032d E\u0330 e\u0330 Ȩ\u0306 ȩ\u0306 F\u0307 f\u0307"),
   (0x1e20, "G\u0304 g\u0304 H\u0307 h\u0307 H\u0323 h\u0323 H\u0308 h\u0308"),
   (0x1e28, "H\u0327 h\u0327 H\u032e h\u032e I\u0330 i\u0330 Ï\u0301 ï\u0301"),
   (0x1e30, "K\u0301 k\u0301 K\u0323 k\u0323 K\u0331 k\u0331 L\u0323 l\u0323"),
   (0x1e38, "Ḷ\u0304 ḷ\u0304 L\u0331 l\u0331 L\u032d l\u032d M\u0301 m\u0301"),
   (0x1e40, "M\u0307 m\u0307 M\u0323 m\u0323 N\u0307 n\u0307 N\u0323 n\u0323"),
   (0x1e48, "N\u0331 n\u0331 N\u032d n\u032d Õ\u0301 õ\u0301 Õ\u0308 õ\u0308"),
   (0x1e50, "Ō\u0300 ō\u0300 Ō\u0301 ō\u0301 P\u0301 p\u0301 P\u0307 p\u0307"),
   (0x1e58, "R\u0307 r\u0307 R\u0323 r\u0323 Ṛ\u0304 ṛ\u0304 R\u0331 r\u0331"),
   (0x1e60, "S\u0307 s\u0307 S\u0323 s\u0323 Ś\u0307 ś\u0307 Š\u0307 š\u0307"),
   (0x1e68, "Ṣ\u0307 ṣ\u0307 T\u0307 t\u0307 T\u0323 t\u0323 T\u0331 t\u0331"),
   (0x1e70, "T\u032d t\u032d U\u0324 u\u0324 U\u0330 u\u0330 U\u032d u\u032d"),
   (0x1e78, "Ũ\u0301 ũ\u0301 Ū\u0308 ū\u0308 V\u0303 v\u0303 V\u0323 v\u0323"),
   (0x1e80, "W\u0300 w\u0300 W\u0301 w\u0301 W\u0308 w\u0308 W\u0307 w\u0307"),
   (0x1e88, "W\u0323 w\u0323 X\u0307 x\u0307 X\u0308 x\u0308 Y\u0307 y\u0307"),
   (0x1e90, "Z\u0302 z\u0302 Z\u0323 z\u0323 Z\u0331 z\u0331 h\u0331 t\u0308"),
   (0x1e98, "w\u030a y\u030a"), (0x1e9b, "ſ\u0307"),
   (0x1ea0, "A\u0323 a\u0323 A\u0309 a\u0309 Â\u0301 â\u0301 Â\u0300 â\u0300"),
   (0x1ea8, "Â\u0309 â\u0309 Â\u0303 â\u0303 Ạ\u0302 ạ\u0302 Ă\u0301 ă\u0301"),
   (0x1eb0, "Ă\u0300 ă\u0300 Ă\u0309 ă\u0309 Ă\u0303 ă\u0303 Ạ\u0306 ạ\u0306"),
   (0x1eb8, "E\u0323 e\u0323 E\u0309 e\u0309 E\u0303 e\u0303 Ê\u0301 ê\u0301"),
   (0x1ec0, "Ê\u0300 ê\u0300 Ê\u0309 ê\u0309 Ê\u0303 ê\u0303 Ẹ\u0302 ẹ\u0302"),
   (0x1ec8, "I\u0309 i\u0309 I\u0323 i\u0323 O\u0323 o\u0323 O\u0309 o\u0309"),
   (0x1ed0, "Ô\u0301 ô\u0301 Ô\u0300 ô\u0300 Ô\u0309 ô\u0309 Ô\u0303 ô\u0303"),
   (0x1ed8, "Ọ\u0302 ọ\u0302 Ơ\u0301 ơ\u0301 Ơ\u0300 ơ\u0300 Ơ\u0309 ơ\u0309"),
   (0x1ee0, "Ơ\u0303 ơ\u0303 Ơ\u0323 ơ\u0323 U\u0323 u\u0323 U\u0309 u\u0309"),
   (0x1ee8, "Ư\u0301 ư\u0301 Ư\u0300 ư\u0300 Ư\u0309 ư\u0309 Ư\u0303 ư\u0303"),
   (0x1ef0, "Ư\u0323 ư\u0323 Y\u0300 y\u0300 Y\u0323 y\u0323 Y\u0309 y\u0309"),
   (0x1ef8, "Y\u0303 y\u0303"),
   (0x1f00, "α\u0313 α\u0314 ἀ\u0300 ἁ\u0300 ἀ\u0301 ἁ\u0301 ἀ\u0342 ἁ\u0342"),
   (0x1f08, "Α\u0313 Α\u0314 Ἀ\u0300 Ἁ\u0300 Ἀ\u0301 Ἁ\u0301 Ἀ\u0342 Ἁ\u0342"),
   (0x1f10, "ε\u0313 ε\u0314 ἐ\u0300 ἑ\u0300 ἐ\u0301 ἑ\u0301"),
   (0x1f18, "Ε\u0313 Ε\u0314 Ἐ\u0300 Ἑ\u0300 Ἐ\u0301 Ἑ\u0301"),
   (0x1f20, "η\u0313 η\u0314 ἠ\u0300 ἡ\u0300 ἠ\u0301 ἡ\u0301 ἠ\u0342 ἡ\u0342"),
   (0x1f28, "Η\u0313 Η\u0314 Ἠ\u0300 Ἡ\u0300 Ἠ\u0301 Ἡ\u0301 Ἠ\u0342 Ἡ\u0342"),
   (0x1f30, "ι\u0313 ι\u0314 ἰ\u0300 ἱ\u0300 ἰ\u0301 ἱ\u0301 ἰ\u0342 ἱ\u0342"),
   (0x1f38, "Ι\u0313 Ι\u0314 Ἰ\u0300 Ἱ\u0300 Ἰ\u0301 Ἱ\u0301 Ἰ\u0342 Ἱ\u0342"),
   (0x1f40, "ο\u0313 ο\u0314 ὀ\u0300 ὁ\u0300 ὀ\u0301 ὁ\u0301"),
   (0x1f48, "Ο\u0313 Ο\u0314 Ὀ\u0300 Ὁ\u0300 Ὀ\u0301 Ὁ\u0301"),
   (0x1f50, "υ\u0313 υ\u0314 ὐ\u0300 ὑ\u0300 ὐ\u0301 ὑ\u0301 ὐ\u0342 ὑ\u0342"),
   (0x1f59, "Υ\u0314"), (0x1f5b, "Ὑ\u0300"), (0x1f5d, "Ὑ\u0301"),
   (0x1f5f, "Ὑ\u0342 ω\u0313 ω\u0314 ὠ\u0300 ὡ\u0300 ὠ\u0301 ὡ\u0301 ὠ\u0342"),
   (0x1f67, "ὡ\u0342 Ω\u0313 Ω\u0314 Ὠ\u0300 Ὡ\u0300 Ὠ\u0301 Ὡ\u0301 Ὠ\u0342"),
   (0x1f6f, "Ὡ\u0342 α\u0300"), (0x1f72, "ε\u0300"), (0x1f74, "η\u0300"), (0x1f76, "ι\u0300"),
   (0x1f78, "ο\u0300"), (0x1f7a, "υ\u0300"), (0x1f7c, "ω\u0300"),
   (0x1f80, "ἀ\u0345 ἁ\u0345 ἂ\u0345 ἃ\u0345 ἄ\u0345 ἅ\u0345 ἆ\u0345 ἇ\u0345"),
   (0x1f88, "Ἀ\u0345 Ἁ\u0345 Ἂ\u0345 Ἃ\u0345 Ἄ\u0345 Ἅ\u0345 Ἆ\u0345 Ἇ\u0345"),
   (0x1f90, "ἠ\u0345 ἡ\u0345 ἢ\u0345 ἣ\u0345 ἤ\u0345 ἥ\u0345 ἦ\u0345 ἧ\u0345"),
   (0x1f98, "Ἠ\u0345 Ἡ\u0345 Ἢ\u0345 Ἣ\u0345 Ἤ\u0345 Ἥ\u0345 Ἦ\u0345 Ἧ\u0345"),
   (0x1fa0, "ὠ\u0345 ὡ\u0345 ὢ\u0345 ὣ\u0345 ὤ\u0345 ὥ\u0345 ὦ\u0345 ὧ\u0345"),
   (0x1fa8, "Ὠ\u0345 Ὡ\u0345 Ὢ\u0345 Ὣ\u0345 Ὤ\u0345 Ὥ\u0345 Ὦ\u0345 Ὧ\u0345"),
   (0x1fb0, "α\u0306 α\u0304 ὰ\u0345 α\u0345 ά\u0345"),
   (0x1fb6, "α\u0342 ᾶ\u0345 Α\u0306 Α\u0304 Α\u0300"), (0x1fbc, "Α\u0345"),
   (0x1fc2, "ὴ\u0345 η\u0345 ή\u0345"), (0x1fc6, "η\u0342 ῆ\u0345 Ε\u0300"), (0x1fca, "Η\u0300"),
   (0x1fcc, "Η\u0345"), (0x1fd0, "ι\u0306 ι\u0304 ϊ\u0300"),
   (0x1fd6, "ι\u0342 ϊ\u0342 Ι\u0306 Ι\u0304 Ι\u0300"), (0x1fe0, "υ\u0306 υ\u0304 ϋ\u0300"),
   (0x1fe4, "ρ\u0313 ρ\u0314 υ\u0342 ϋ\u0342 Υ\u0306 Υ\u0304 Υ\u0300"), (0x1fec, "Ρ\u0314"),
   (0x1ff2, "ὼ\u0345 ω\u0345 ώ\u0345"), (0x1ff6, "ω\u0342 ῶ\u0345 Ο\u0300"), (0x1ffa, "Ω\u0300"),
   (0x1ffc, "Ω\u0345"), (0x304c, "か\u3099"), (0x304e, "き\u3099"), (0x3050, "く\u3099"),
   (0x3052, "け\u3099"), (0x3054, "こ\u3099"), (0x3056, "さ\u3099"), (0x3058, "し\u3099"),
   (0x305a, "す\u3099"), (0x305c, "せ\u3099"), (0x305e, "そ\u3099"), (0x3060, "た\u3099"),
   (0x3062, "ち\u3099"), (0x3065, "つ\u3099"), (0x3067, "て\u3099"), (0x3069, "と\u3099"),
   (0x3070, "は\u3099 は\u309a"), (0x3073, "ひ\u3099 ひ\u309a"), (0x3076, "ふ\u3099 ふ\u309a"),
   (0x3079, "へ\u3099 へ\u309a"), (0x307c, "ほ\u3099 ほ\u309a"), (0x3094, "う\u3099"),
   (0x309e, "\u309d\u3099"), (0x30ac, "カ\u3099"), (0x30ae, "キ\u3099"), (0x30b0, "ク\u3099"),
   (0x30b2, "ケ\u3099"), (0x30b4, "コ\u3099"), (0x30b6, "サ\u3099"), (0x30b8, "シ\u3099"),
   (0x30ba, "ス\u3099"), (0x30bc, "セ\u3099"), (0x30be, "ソ\u3099"), (0x30c0, "タ\u3099"),
   (0x30c2, "チ\u3099"), (0x30c5, "ツ\u3099"), (0x30c7, "テ\u3099"), (0x30c9, "ト\u3099"),
   (0x30d0, "ハ\u3099 ハ\u309a"), (0x30d3, "ヒ\u3099 ヒ\u309a"), (0x30d6, "フ\u3099 フ\u309a"),
   (0x30d9, "ヘ\u3099 ヘ\u309a"), (0x30dc, "ホ\u3099 ホ\u309a"), (0x30f4, "ウ\u3099"),
   (0x30f7, "ワ\u3099 ヰ\u3099 ヱ\u3099 ヲ\u3099"), (0x30fe, "\u30fd\u3099"), (0x1109a, "𑂚"),
   (0x1109c, "𑂜"), (0x110ab, "𑂫"), (0x1112e, "𑄮 𑄯"), (0x1134b, "𑍋 𑍌"), (0x114bb, "𑒻 𑒼"),
   (0x114be, "𑒾"), (0x115ba, "𑖺 𑖻"), (0x11938, "𑤸")]

/-- The classes of marks that combine with a base, with the code points of each class. -/
def markClasses : List (Nat × Ranges) :=
  [(1,
    [(820, 824), (7380, 7380), (7394, 7400), (8402, 8403), (8408, 8410), (8421, 8422),
     (8426, 8427), (68153, 68153), (92912, 92916), (113822, 113822), (119143, 119145)]),
   (6,
    [(94192, 94193)]),
   (7,
    [(2364, 2364), (2492, 2492), (2620, 2620), (2748, 2748), (2876, 2876), (3132, 3132),
     (3260, 3260), (4151, 4151), (6964, 6964), (7142, 7142), (7223, 7223), (43443, 43443),
     (69818, 69818), (70003, 70003), (70090, 70090), (70198, 70198), (70377, 70377),
     (70459, 70460), (70726, 70726), (70851, 70851), (71104, 71104), (71351, 71351),
     (71738, 71738), (72003, 72003), (73026, 73026), (125258, 125258)]),
   (8,
    [(12441, 12442)]),
   (9,
    [(2381, 2381), (2509, 2509), (2637, 2637), (2765, 2765), (2893, 2893), (3021, 3021),
     (3149, 3149), (3277, 3277), (3387, 3388), (3405, 3405), (3530, 3530), (3642, 3642),
     (3770, 3770), (3972, 3972), (4153, 4154), (5908, 5909), (5940, 5940), (6098, 6098),
     (6752, 6752), (6980, 6980), (7082, 7083), (7154, 7155), (11647, 11647), (43014, 43014),
     (43052, 43052), (43204, 43204), (43347, 43347), (43456, 43456), (43766, 43766),
     (44013, 44013), (68159, 68159), (69702, 69702), (69744, 69744), (69759, 69759),
     (69817, 69817), (69939, 69940), (70080, 70080), (70197, 70197), (70378, 70378),
     (70477, 70477), (70722, 70722), (70850, 70850), (71103, 71103), (71231, 71231),
     (71350, 71350), (71467, 71467), (71737, 71737), (71997, 71998), (72160, 72160),
     (72244, 72244), (72263, 72263), (72345, 72345), (72767, 72767), (73028, 73029),
     (73111, 73111)]),
   (10,
    [(1456, 1456)]),
   (11,
    [(1457, 1457)]),
   (12,
    [(1458, 1458)]),
   (13,
    [(1459, 1459)]),
   (14,
    [(1460, 1460)]),
   (15,
    [(1461, 1461)]),
   (16,
    [(1462, 1462)]),
   (17,
    [(1463, 1463)]),
   (18,
    [(1464, 1464), (1479, 1479)]),
   (19,
    [(1465, 1466)]),
   (20,
    [(1467, 1467)]),
   (21,
    [(1468, 1468)]),
   (22,
    [(1469, 1469)]),
   (23,
    [(1471, 1471)]),
   (24,
    [(1473, 1473)]),
   (25,
    [(1474, 1474)]),
   (26,
    [(64286, 64286)]),
   (27,
    [(1611, 1611), (2288, 2288)]),
   (28,
    [(1612, 1612), (2289, 2289)]),
   (29,
    [(1613, 1613), (2290, 2290)]),
   (30,
    [(1560, 1560), (1614, 1614)]),
   (31,
    [(1561, 1561), (1615, 1615)]),
   (32,
    [(1562, 1562), (1616, 1616)]),
   (33,
    [(1617, 1617)]),
   (34,
    [(1618, 1618)]),
   (35,
    [(1648, 1648)]),
   (36,
    [(1809, 1809)]),
   (84,
    [(3157, 3157)]),
   (91,
    [(3158, 3158)]),
   (103,
    [(3640, 3641)]),
   (107,
    [(3656, 3659)]),
   (118,
    [(3768, 3769)]),
   (122,
    [(3784, 3787)]),
   (129,
    [(3953, 3953)]),
   (130,
    [(3954, 3954), (3962, 3965), (3968, 3968)]),
   (132,
    [(3956, 3956)]),
   (202,
    [(801, 802), (807, 808), (7632, 7632)]),
   (214,
    [(7630, 7630)]),
   (216,
    [(795, 795), (3897, 3897), (119141, 119142), (119150, 119154)]),
   (218,
    [(7674, 7674), (12330, 12330)]),
   (220,
    [(790, 793), (796, 800), (803, 806), (809, 819), (825, 828), (839, 841), (845, 846),
     (851, 854), (857, 858), (1425, 1425), (1430, 1430), (1435, 1435), (1442, 1447),
     (1450, 1450), (1477, 1477), (1621, 1622), (1628, 1628), (1631, 1631), (1763, 1763),
     (1770, 1770), (1773, 1773), (1841, 1841), (1844, 1844), (1847, 1849), (1851, 1852),
     (1854, 1854), (1858, 1858), (1860, 1860), (1862, 1862), (1864, 1864), (2034, 2034),
     (2045, 2045), (2137, 2139), (2201, 2203), (2255, 2259), (2275, 2275), (2278, 2278),
     (2281, 2281), (2285, 2287), (2294, 2294), (2297, 2298), (2386, 2386), (3864, 3865),
     (3893, 3893), (3895, 3895), (4038, 4038), (4237, 4237), (6459, 6459), (6680, 6680),
     (6783, 6783), (6837, 6842), (6845, 6845), (6847, 6848), (6851, 6852), (6858, 6858),
     (7020, 7020), (7381, 7385), (7388, 7391), (7405, 7405), (7618, 7618), (7626, 7626),
     (7631, 7631), (7673, 7673), (7677, 7677), (7679, 7679), (8424, 8424), (8428, 8431),
     (43307, 43309), (43700, 43700), (65063, 65069), (66045, 66045), (66272, 66272),
     (68109, 68109), (68154, 68154), (68326, 68326), (69446, 69447), (69451, 69451),
     (69453, 69456), (69507, 69507), (69509, 69509), (119163, 119170), (119178, 119179),
     (125136, 125142)]),
   (222,
    [(1434, 1434), (1453, 1453), (6457, 6457), (12333, 12333)]),
   (224,
    [(12334, 12335)]),
   (226,
    [(119149, 119149)]),
   (228,
    [(1454, 1454), (6313, 6313), (7671, 7672), (12331, 12331)]),
   (230,
    [(768, 788), (829, 836), (838, 838), (842, 844), (848, 850), (855, 855), (859, 859),
     (867, 879), (1155, 1159), (1426, 1429), (1431, 1433), (1436, 1441), (1448, 1449),
     (1451, 1452), (1455, 1455), (1476, 1476), (1552, 1559), (1619, 1620), (1623, 1627),
     (1629, 1630), (1750, 1756), (1759, 1762), (1764, 1764), (1767, 1768), (1771, 1772),
     (1840, 1840), (1842, 1843), (1845, 1846), (1850, 1850), (1853, 1853), (1855, 1857),
     (1859, 1859), (1861, 1861), (1863, 1863), (1865, 1866), (2027, 2033), (2035, 2035),
     (2070, 2073), (2075, 2083), (2085, 2087), (2089, 2093), (2200, 2200), (2204, 2207),
     (2250, 2254), (2260, 2273), (2276, 2277), (2279, 2280), (2282, 2284), (2291, 2293),
     (2295, 2296), (2299, 2303), (2385, 2385), (2387, 2388), (2558, 2558), (3970, 3971),
     (3974, 3975), (4957, 4959), (6109, 6109), (6458, 6458), (6679, 6679), (6773, 6780),
     (6832, 6836), (6843, 6844), (6849, 6850), (6853, 6857), (6859, 6862), (7019, 7019),
     (7021, 7027), (7376, 7378), (7386, 7387), (7392, 7392), (7412, 7412), (7416, 7417),
     (7616, 7617), (7619, 7625), (7627, 7628), (7633, 7669), (7675, 7675), (7678, 7678),
     (8400, 8401), (8404, 8407), (8411, 8412), (8417, 8417), (8423, 8423), (8425, 8425),
     (8432, 8432), (11503, 11505), (11744, 11775), (42607, 42607), (42612, 42621),
     (42654, 42655), (42736, 42737), (43232, 43249), (43696, 43696), (43698, 43699),
     (43703, 43704), (43710, 43711), (43713, 43713), (65056, 65062), (65070, 65071),
     (66422, 66426), (68111, 68111), (68152, 68152), (68325, 68325), (68900, 68903),
     (69291, 69292), (69448, 69450), (69452, 69452), (69506, 69506), (69508, 69508),
     (69888, 69890), (70502, 70508), (70512, 70516), (70750, 70750), (92976, 92982),
     (119173, 119177), (119210, 119213), (119362, 119364), (122880, 122886), (122888, 122904),
     (122907, 122913), (122915, 122916), (122918, 122922), (123184, 123190), (123566, 123566),
     (123628, 123631), (125252, 125257)]),
   (232,
    [(789, 789), (794, 794), (856, 856), (7670, 7670), (12332, 12332)]),
   (233,
    [(860, 860), (863, 863), (866, 866), (7676, 7676)]),
   (234,
    [(861, 862), (864, 865), (7629, 7629)]),
   (240,
    [(837, 837)])]

end BlockText.Text
