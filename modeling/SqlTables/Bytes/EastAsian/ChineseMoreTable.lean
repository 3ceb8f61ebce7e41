import SqlTables.Bytes.EastAsian.Grid

/-!
# Further Chinese characters

The signs that the extensions of the simplified set bring, by their own bytes.
-/

set_option autoImplicit false

namespace SqlTables.Bytes.EastAsian

/-- What the extended encoding adds to the simplified set, or changes, ideographs in order apart. -/
def extendedSigns : Grid := [
  ⟨0xA1, 0xA4, "·"⟩,
  ⟨0xA1, 0xAA, "—"⟩,
  ⟨0xA2, 0xA1, "ⅰⅱⅲⅳⅴⅵⅶⅷⅸⅹ"⟩,
  ⟨0xA6, 0xE0, "︵︶︹︺︿﹀︽︾﹁﹂﹃﹄\ufffe\ufffe︻︼︷︸︱\ufffe︳︴"⟩,
  ⟨0xA8, 0x40, "ˊˋ˙–―‥‵℅℉↖↗↘↙∕∟∣≒≦≧⊿═║╒╓╔╕╖╗╘╙╚╛╜╝╞╟╠╡╢╣╤╥╦╧╨╩╪╫╬╭╮╯╰╱╲╳▁▂▃▄▅▆▇\ufffe█▉▊▋▌▍▎▏▓▔▕▼▽◢◣◤◥☉⊕〒〝〞"⟩,
  ⟨0xA8, 0xBB, "ɑ\ufffeńň\ufffeɡ"⟩,
  ⟨0xA9, 0x40, "〡〢〣〤〥〦〧〨〩㊣㎎㎏㎜㎝㎞㎡㏄㏎㏑㏒㏕︰￢￤\ufffe℡㈱\ufffe‐\ufffe\ufffe\ufffeー゛゜ヽヾ〆ゝゞ﹉﹊﹋﹌﹍﹎﹏﹐﹑﹒﹔﹕﹖﹗﹙﹚﹛﹜﹝﹞﹟﹠﹡\ufffe﹢﹣﹤﹥﹦﹨﹩﹪﹫"⟩,
  ⟨0xA9, 0x96, "〇"⟩,
  ⟨0xFD, 0x9C, "\uf92c\uf979\uf995\uf9e7\uf9f1"⟩,
  ⟨0xFE, 0x40, "\ufa0c\ufa0d\ufa0e\ufa0f\ufa11\ufa13\ufa14\ufa18\ufa1f\ufa20\ufa21\ufa23\ufa24\ufa27\ufa28\ufa29"⟩]

/-- What the national encoding adds to the extended one, apart from private use. -/
def nationalSigns : Grid := [
  ⟨0xA2, 0xAB, "\ue766\ue767\ue768\ue769\ue76a\ue76b"⟩,
  ⟨0xA2, 0xE3, "€\ue76d"⟩,
  ⟨0xA2, 0xEF, "\ue76e\ue76f"⟩,
  ⟨0xA2, 0xFD, "\ue770\ue771"⟩,
  ⟨0xA4, 0xF4, "\ue772\ue773\ue774\ue775\ue776\ue777\ue778\ue779\ue77a\ue77b\ue77c"⟩,
  ⟨0xA5, 0xF7, "\ue77d\ue77e\ue77f\ue780\ue781\ue782\ue783\ue784"⟩,
  ⟨0xA6, 0xB9, "\ue785\ue786\ue787\ue788\ue789\ue78a\ue78b\ue78c"⟩,
  ⟨0xA6, 0xD9, "\ue78d\ue78e\ue78f\ue790\ue791\ue792\ue793"⟩,
  ⟨0xA6, 0xEC, "\ue794\ue795"⟩,
  ⟨0xA6, 0xF3, "\ue796︳︴\ue797\ue798\ue799\ue79a\ue79b\ue79c\ue79d\ue79e\ue79f"⟩,
  ⟨0xA7, 0xC2, "\ue7a0\ue7a1\ue7a2\ue7a3\ue7a4\ue7a5\ue7a6\ue7a7\ue7a8\ue7a9\ue7aa\ue7ab\ue7ac\ue7ad\ue7ae"⟩,
  ⟨0xA7, 0xF2, "\ue7af\ue7b0\ue7b1\ue7b2\ue7b3\ue7b4\ue7b5\ue7b6\ue7b7\ue7b8\ue7b9\ue7ba\ue7bb"⟩,
  ⟨0xA8, 0x96, "\ue7bc\ue7bd\ue7be\ue7bf\ue7c0\ue7c1\ue7c2\ue7c3\ue7c4\ue7c5\ue7c6"⟩,
  ⟨0xA8, 0xBC, "\ue7c7ńňǹɡ\ue7c9\ue7ca\ue7cb\ue7cc"⟩,
  ⟨0xA8, 0xEA, "\ue7cd\ue7ce\ue7cf\ue7d0\ue7d1\ue7d2\ue7d3\ue7d4\ue7d5\ue7d6\ue7d7\ue7d8\ue7d9\ue7da\ue7db\ue7dc\ue7dd\ue7de\ue7df\ue7e0\ue7e1"⟩,
  ⟨0xA9, 0x58, "\ue7e2℡㈱\ue7e3‐\ue7e4\ue7e5\ue7e6"⟩,
  ⟨0xA9, 0x89, "〾⿰⿱⿲⿳⿴⿵⿶⿷⿸⿹⿺⿻〇\ue7f4\ue7f5\ue7f6\ue7f7\ue7f8\ue7f9\ue7fa\ue7fb\ue7fc\ue7fd\ue7fe\ue7ff\ue800"⟩,
  ⟨0xA9, 0xF0, "\ue801\ue802\ue803\ue804\ue805\ue806\ue807\ue808\ue809\ue80a\ue80b\ue80c\ue80d\ue80e\ue80f"⟩,
  ⟨0xD7, 0xFA, "\ue810\ue811\ue812\ue813\ue814"⟩,
  ⟨0xFE, 0x50, "⺁\ue816\ue817\ue818⺄㑳㑇⺈⺋\ue81e㖞㘚㘎⺌⺗㥮㤘\ue826㧏㧟㩳㧐\ue82b\ue82c㭎㱮㳠⺧\ue831\ue832⺪䁖䅟⺮䌷⺳⺶⺷\ue83b䎱䎬⺻䏝䓖䙡䙌\ue843\ufffe䜣䜩䝼䞍⻊䥇䥺䥽䦂䦃䦅䦆䦟䦛䦷䦶\ue854\ue855䲣䲟䲠䲡䱷䲢䴓䴔䴕䴖䴗䴘䴙䶮\ue864"⟩]

/-- The stretches of the basic plane that four bytes stand for: the number of the first code, its
code point, and how many follow each other. -/
def fourByteRanges : List (Nat × Nat × Nat) := [
  (0, 0x0080, 36), (36, 0x00A5, 2), (38, 0x00A9, 7), (45, 0x00B2, 5), (50, 0x00B8, 31),
  (81, 0x00D8, 8), (89, 0x00E2, 6), (95, 0x00EB, 1), (96, 0x00EE, 4), (100, 0x00F4, 3),
  (103, 0x00F8, 1), (104, 0x00FB, 1), (105, 0x00FD, 4), (109, 0x0102, 17), (126, 0x0114, 7),
  (133, 0x011C, 15), (148, 0x012C, 24), (172, 0x0145, 3), (175, 0x0149, 4), (179, 0x014E, 29),
  (208, 0x016C, 98), (306, 0x01CF, 1), (307, 0x01D1, 1), (308, 0x01D3, 1), (309, 0x01D5, 1),
  (310, 0x01D7, 1), (311, 0x01D9, 1), (312, 0x01DB, 1), (313, 0x01DD, 28), (341, 0x01FA, 87),
  (428, 0x0252, 15), (443, 0x0262, 101), (544, 0x02C8, 1), (545, 0x02CC, 13), (558, 0x02DA, 183),
  (741, 0x03A2, 1), (742, 0x03AA, 7), (749, 0x03C2, 1), (750, 0x03CA, 55), (805, 0x0402, 14),
  (819, 0x0450, 1), (820, 0x0452, 7102), (7922, 0x2011, 2), (7924, 0x2017, 1), (7925, 0x201A, 2),
  (7927, 0x201E, 7), (7934, 0x2027, 9), (7943, 0x2031, 1), (7944, 0x2034, 1), (7945, 0x2036, 5),
  (7950, 0x203C, 112), (8062, 0x20AD, 86), (8148, 0x2104, 1), (8149, 0x2106, 3),
  (8152, 0x210A, 12), (8164, 0x2117, 10), (8174, 0x2122, 62), (8236, 0x216C, 4),
  (8240, 0x217A, 22), (8262, 0x2194, 2), (8264, 0x219A, 110), (8374, 0x2209, 6),
  (8380, 0x2210, 1), (8381, 0x2212, 3), (8384, 0x2216, 4), (8388, 0x221B, 2), (8390, 0x2221, 2),
  (8392, 0x2224, 1), (8393, 0x2226, 1), (8394, 0x222C, 2), (8396, 0x222F, 5), (8401, 0x2238, 5),
  (8406, 0x223E, 10), (8416, 0x2249, 3), (8419, 0x224D, 5), (8424, 0x2253, 13), (8437, 0x2262, 2),
  (8439, 0x2268, 6), (8445, 0x2270, 37), (8482, 0x2296, 3), (8485, 0x229A, 11),
  (8496, 0x22A6, 25), (8521, 0x22C0, 82), (8603, 0x2313, 333), (8936, 0x246A, 10),
  (8946, 0x249C, 100), (9046, 0x254C, 4), (9050, 0x2574, 13), (9063, 0x2590, 3),
  (9066, 0x2596, 10), (9076, 0x25A2, 16), (9092, 0x25B4, 8), (9100, 0x25BE, 8), (9108, 0x25C8, 3),
  (9111, 0x25CC, 2), (9113, 0x25D0, 18), (9131, 0x25E6, 31), (9162, 0x2607, 2),
  (9164, 0x260A, 54), (9218, 0x2641, 1), (9219, 0x2643, 2110), (11329, 0x2E82, 2),
  (11331, 0x2E85, 3), (11334, 0x2E89, 2), (11336, 0x2E8D, 10), (11346, 0x2E98, 15),
  (11361, 0x2EA8, 2), (11363, 0x2EAB, 3), (11366, 0x2EAF, 4), (11370, 0x2EB4, 2),
  (11372, 0x2EB8, 3), (11375, 0x2EBC, 14), (11389, 0x2ECB, 293), (11682, 0x2FFC, 4),
  (11686, 0x3004, 1), (11687, 0x3018, 5), (11692, 0x301F, 2), (11694, 0x302A, 20),
  (11714, 0x303F, 2), (11716, 0x3094, 7), (11723, 0x309F, 2), (11725, 0x30F7, 5),
  (11730, 0x30FF, 6), (11736, 0x312A, 246), (11982, 0x322A, 7), (11989, 0x3232, 113),
  (12102, 0x32A4, 234), (12336, 0x3390, 12), (12348, 0x339F, 2), (12350, 0x33A2, 34),
  (12384, 0x33C5, 9), (12393, 0x33CF, 2), (12395, 0x33D3, 2), (12397, 0x33D6, 113),
  (12510, 0x3448, 43), (12553, 0x3474, 298), (12851, 0x359F, 111), (12962, 0x360F, 11),
  (12973, 0x361B, 765), (13738, 0x3919, 85), (13823, 0x396F, 96), (13919, 0x39D1, 14),
  (13933, 0x39E0, 147), (14080, 0x3A74, 218), (14298, 0x3B4F, 287), (14585, 0x3C6F, 113),
  (14698, 0x3CE1, 885), (15583, 0x4057, 264), (15847, 0x4160, 471), (16318, 0x4338, 116),
  (16434, 0x43AD, 4), (16438, 0x43B2, 43), (16481, 0x43DE, 248), (16729, 0x44D7, 373),
  (17102, 0x464D, 20), (17122, 0x4662, 193), (17315, 0x4724, 5), (17320, 0x472A, 82),
  (17402, 0x477D, 16), (17418, 0x478E, 441), (17859, 0x4948, 50), (17909, 0x497B, 2),
  (17911, 0x497E, 4), (17915, 0x4984, 1), (17916, 0x4987, 20), (17936, 0x499C, 3),
  (17939, 0x49A0, 22), (17961, 0x49B8, 703), (18664, 0x4C78, 39), (18703, 0x4CA4, 111),
  (18814, 0x4D1A, 148), (18962, 0x4DAF, 81), (19043, 0x9FA6, 14426), (33469, 0xE76C, 1),
  (33470, 0xE7C8, 1), (33471, 0xE7E7, 13), (33484, 0xE815, 1), (33485, 0xE819, 5),
  (33490, 0xE81F, 7), (33497, 0xE827, 4), (33501, 0xE82D, 4), (33505, 0xE833, 8),
  (33513, 0xE83C, 7), (33520, 0xE844, 16), (33536, 0xE856, 14), (33550, 0xE865, 4295),
  (37845, 0xF92D, 76), (37921, 0xF97A, 27), (37948, 0xF996, 81), (38029, 0xF9E8, 9),
  (38038, 0xF9F2, 26), (38064, 0xFA10, 1), (38065, 0xFA12, 1), (38066, 0xFA15, 3),
  (38069, 0xFA19, 6), (38075, 0xFA22, 1), (38076, 0xFA25, 2), (38078, 0xFA2A, 1030),
  (39108, 0xFE32, 1), (39109, 0xFE45, 4), (39113, 0xFE53, 1), (39114, 0xFE58, 1),
  (39115, 0xFE67, 1), (39116, 0xFE6C, 149), (39265, 0xFF5F, 129), (39394, 0xFFE6, 26)]

end SqlTables.Bytes.EastAsian
