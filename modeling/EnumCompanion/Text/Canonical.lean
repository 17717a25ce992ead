import EnumCompanion.Text.CodeSet

/-!
# `EnumCompanion.Text.Canonical`: spellings of one text

A letter with a mark is one character or two, and marks that do not touch
each other may come in any order. The language takes such spellings of an
identifier for one: it compares identifiers by their composed normal forms
(NFC). A composed form is made from the decomposed form of a text, and has
that decomposed form again, so two texts share the one exactly when they
share the other. `canonical` is the decomposed form (NFD): every character
is taken apart as far as it goes, and the marks behind a letter are put in
the order of their combining classes.

The tables are those of Unicode 16.
-/

set_option autoImplicit false

namespace EnumCompanion.Text

/-! ### Tables -/

/-- What the code points from `first` on come to, one after the other. -/
structure FormRun (α : Type) where
  first : Nat
  forms : List α

namespace FormRun

/-- What the code point comes to, if it is in the run. -/
def form? {α : Type} (r : FormRun α) (c : Nat) : Option α :=
  if r.first ≤ c then r.forms[c - r.first]? else none

end FormRun

/-- Characters that stand for one other character. -/
def canonicalSingles : List (FormRun Nat) :=
  [⟨832, [768, 769]⟩, ⟨835, [787]⟩, ⟨884, [697]⟩, ⟨894, [59]⟩, ⟨903, [183]⟩, ⟨8126, [953]⟩,
   ⟨8175, [96]⟩, ⟨8189, [180]⟩, ⟨8192, [8194, 8195]⟩, ⟨8486, [937]⟩, ⟨8490, [75]⟩,
   ⟨9001, [12296, 12297]⟩,
   ⟨63744, [35912, 26356, 36554, 36040, 28369, 20018, 21477, 40860, 40860, 22865, 37329, 21895,
     22856, 25078, 30313, 32645, 34367, 34746, 35064, 37007, 27138, 27931, 28889, 29662, 33853,
     37226, 39409, 20098, 21365, 27396, 29211, 34349, 40478, 23888, 28651, 34253, 35172, 25289,
     33240, 34847, 24266, 26391, 28010, 29436, 37070, 20358, 20919, 21214, 25796, 27347, 29200,
     30439, 32769, 34310, 34396, 36335, 38706, 39791, 40442, 30860, 31103, 32160, 33737, 37636,
     40575, 35542, 22751, 24324, 31840, 32894, 29282, 30922, 36034, 38647, 22744, 23650, 27155,
     28122, 28431, 32047, 32311, 38475, 21202, 32907, 20956, 20940, 31260, 32190, 33777, 38517,
     35712, 25295, 27138, 35582, 20025, 23527, 24594, 29575, 30064, 21271, 30971, 20415, 24489,
     19981, 27852, 25976, 32034, 21443, 22622, 30465, 33865, 35498, 27578, 36784, 27784, 25342,
     33509, 25504, 30053, 20142, 20841, 20937, 26753, 31975, 33391, 35538, 37327, 21237, 21570,
     22899, 24300, 26053, 28670, 31018, 38317, 39530, 40599, 40654, 21147, 26310, 27511, 36706,
     24180, 24976, 25088, 25754, 28451, 29001, 29833, 31178, 32244, 32879, 36646, 34030, 36899,
     37706, 21015, 21155, 21693, 28872, 35010, 35498, 24265, 24565, 25467, 27566, 31806, 29557,
     20196, 22265, 23527, 23994, 24604, 29618, 29801, 32666, 32838, 37428, 38646, 38728, 38936,
     20363, 31150, 37300, 38584, 24801, 20102, 20698, 23534, 23615, 26009, 27138, 29134, 30274,
     34044, 36988, 40845, 26248, 38446, 21129, 26491, 26611, 27969, 28316, 29705, 30041, 30827,
     32016, 39006, 20845, 25134, 38520, 20523, 23833, 28138, 36650, 24459, 24900, 26647, 29575,
     38534, 21033, 21519, 23653, 26131, 26446, 26792, 27877, 29702, 30178, 32633, 35023, 35041,
     37324, 38626, 21311, 28346, 21533, 29136, 29848, 34298, 38563, 40023, 40607, 26519, 28107,
     33256, 31435, 31520, 31890, 29376, 28825, 35672, 20160, 33590, 21050, 20999, 24230, 25299,
     31958, 23429, 27934, 26292, 36667, 34892, 38477, 35211, 24275, 20800, 21952]⟩,
   ⟨64016, [22618]⟩, ⟨64018, [26228]⟩,
   ⟨64021, [20958, 29482, 30410, 31036, 31070, 31077, 31119, 38742, 31934, 32701]⟩,
   ⟨64032, [34322]⟩, ⟨64034, [35576]⟩, ⟨64037, [36920, 37117]⟩,
   ⟨64042, [39151, 39164, 39208, 40372, 37086, 38583, 20398, 20711, 20813, 21193, 21220, 21329,
     21917, 22022, 22120, 22592, 22696, 23652, 23662, 24724, 24936, 24974, 25074, 25935, 26082,
     26257, 26757, 28023, 28186, 28450, 29038, 29227, 29730, 30865, 31038, 31049, 31048, 31056,
     31062, 31069, 31117, 31118, 31296, 31361, 31680, 32244, 32265, 32321, 32626, 32773, 33261,
     33401, 33401, 33879, 35088, 35222, 35585, 35641, 36051, 36104, 36790, 36920, 38627, 38911,
     38971, 24693, 148206, 33304]⟩,
   ⟨64112, [20006, 20917, 20840, 20352, 20805, 20864, 21191, 21242, 21917, 21845, 21913, 21986,
     22618, 22707, 22852, 22868, 23138, 23336, 24274, 24281, 24425, 24493, 24792, 24910, 24840,
     24974, 24928, 25074, 25140, 25540, 25628, 25682, 25942, 26228, 26391, 26395, 26454, 27513,
     27578, 27969, 28379, 28363, 28450, 28702, 29038, 30631, 29237, 29359, 29482, 29809, 29958,
     30011, 30237, 30239, 30410, 30427, 30452, 30538, 30528, 30924, 31409, 31680, 31867, 32091,
     32244, 32574, 32773, 33618, 33775, 34681, 35137, 35206, 35222, 35519, 35576, 35531, 35585,
     35582, 35565, 35641, 35722, 36104, 36664, 36978, 37273, 37494, 38524, 38627, 38742, 38875,
     38911, 38923, 38971, 39698, 40860, 141386, 141380, 144341, 15261, 16408, 16441, 152137, 154832,
     163539, 40771, 40846]⟩,
   ⟨194560, [20029, 20024, 20033, 131362, 20320, 20398, 20411, 20482, 20602, 20633, 20711, 20687,
     13470, 132666, 20813, 20820, 20836, 20855, 132380, 13497, 20839, 20877, 132427, 20887, 20900,
     20172, 20908, 20917, 168415, 20981, 20995, 13535, 21051, 21062, 21106, 21111, 13589, 21191,
     21193, 21220, 21242, 21253, 21254, 21271, 21321, 21329, 21338, 21363, 21373, 21375, 21375,
     21375, 133676, 28784, 21450, 21471, 133987, 21483, 21489, 21510, 21662, 21560, 21576, 21608,
     21666, 21750, 21776, 21843, 21859, 21892, 21892, 21913, 21931, 21939, 21954, 22294, 22022,
     22295, 22097, 22132, 20999, 22766, 22478, 22516, 22541, 22411, 22578, 22577, 22700, 136420,
     22770, 22775, 22790, 22810, 22818, 22882, 136872, 136938, 23020, 23067, 23079, 23000, 23142,
     14062, 14076, 23304, 23358, 23358, 137672, 23491, 23512, 23527, 23539, 138008, 23551, 23558,
     24403, 23586, 14209, 23648, 23662, 23744, 23693, 138724, 23875, 138726, 23918, 23915, 23932,
     24033, 24034, 14383, 24061, 24104, 24125, 24169, 14434, 139651, 14460, 24240, 24243, 24246,
     24266, 172946, 24318, 140081, 140081, 33281, 24354, 24354, 14535, 144056, 156122, 24418, 24427,
     14563, 24474, 24525, 24535, 24569, 24705, 14650, 14620, 24724, 141012, 24775, 24904, 24908,
     24910, 24908, 24954, 24974, 25010, 24996, 25007, 25054, 25074, 25078, 25104, 25115, 25181,
     25265, 25300, 25424, 142092, 25405, 25340, 25448, 25475, 25572, 142321, 25634, 25541, 25513,
     14894, 25705, 25726, 25757, 25719, 14956, 25935, 25964, 143370, 26083, 26360, 26185, 15129,
     26257, 15112, 15076, 20882, 20885, 26368, 26268, 32941, 17369, 26391, 26395, 26401, 26462,
     26451, 144323, 15177, 26618, 26501, 26706, 26757, 144493, 26766, 26655, 26900, 15261, 26946,
     27043, 27114, 27304, 145059, 27355, 15384, 27425, 145575, 27476, 15438, 27506, 27551, 27578,
     27579, 146061, 138507, 146170, 27726, 146620, 27839, 27853, 27751, 27926, 27966, 28023, 27969,
     28009, 28024, 28037, 146718, 27956, 28207, 28270, 15667, 28363, 28359, 147153, 28153, 28526,
     147294, 147342, 28614, 28729, 28702, 28699, 15766, 28746, 28797, 28791, 28845, 132389, 28997,
     148067, 29084, 148395, 29224, 29237, 29264, 149000, 29312, 29333, 149301, 149524, 29562, 29579,
     16044, 29605, 16056, 16056, 29767, 29788, 29809, 29829, 29898, 16155, 29988, 150582, 30014,
     150674, 30064, 139679, 30224, 151457, 151480, 151620, 16380, 16392, 30452, 151795, 151794,
     151833, 151859, 30494, 30495, 30495, 30538, 16441, 30603, 16454, 16534, 152605, 30798, 30860,
     30924, 16611, 153126, 31062, 153242, 153285, 31119, 31211, 16687, 31296, 31306, 31311, 153980,
     154279, 154279, 31470, 16898, 154539, 31686, 31689, 16935, 154752, 31954, 17056, 31976, 31971,
     32000, 155526, 32099, 17153, 32199, 32258, 32325, 17204, 156200, 156231, 17241, 156377, 32634,
     156478, 32661, 32762, 32773, 156890, 156963, 32864, 157096, 32880, 144223, 17365, 32946, 33027,
     17419, 33086, 23221, 157607, 157621, 144275, 144284, 33281, 33284, 36766, 17515, 33425, 33419,
     33437, 21171, 33457, 33459, 33469, 33510, 158524, 33509, 33565, 33635, 33709, 33571, 33725,
     33767, 33879, 33619, 33738, 33740, 33756, 158774, 159083, 158933, 17707, 34033, 34035, 34070,
     160714, 34148, 159532, 17757, 17761, 159665, 159954, 17771, 34384, 34396, 34407, 34409, 34473,
     34440, 34574, 34530, 34681, 34600, 34667, 34694, 17879, 34785, 34817, 17913, 34912, 34915,
     161383, 35031, 35038, 17973, 35066, 13499, 161966, 162150, 18110, 18119, 35488, 35565, 35722,
     35925, 162984, 36011, 36033, 36123, 36215, 163631, 133124, 36299, 36284, 36336, 133342, 36564,
     36664, 165330, 165357, 37012, 37105, 37137, 165678, 37147, 37432, 37591, 37592, 37500, 37881,
     37909, 166906, 38283, 18837, 38327, 167287, 18918, 38595, 23986, 38691, 168261, 168474, 19054,
     19062, 38880, 168970, 19122, 169110, 38923, 38923, 38953, 169398, 39138, 19251, 39209, 39335,
     39362, 39422, 19406, 170800, 39698, 40000, 40189, 19662, 19693, 40295, 172238, 19704, 172293,
     172558, 172689, 40635, 19798, 40697, 40702, 40709, 40719, 40726, 40763, 173568]⟩]

/-- Characters that fall into several. -/
def canonicalForms : List (FormRun (List Nat)) :=
  [⟨192, [[65, 768], [65, 769], [65, 770], [65, 771], [65, 776], [65, 778]]⟩,
   ⟨199, [[67, 807], [69, 768], [69, 769], [69, 770], [69, 776], [73, 768], [73, 769], [73, 770],
     [73, 776]]⟩, ⟨209, [[78, 771], [79, 768], [79, 769], [79, 770], [79, 771], [79, 776]]⟩,
   ⟨217, [[85, 768], [85, 769], [85, 770], [85, 776], [89, 769]]⟩,
   ⟨224, [[97, 768], [97, 769], [97, 770], [97, 771], [97, 776], [97, 778]]⟩,
   ⟨231, [[99, 807], [101, 768], [101, 769], [101, 770], [101, 776], [105, 768], [105, 769],
     [105, 770], [105, 776]]⟩,
   ⟨241, [[110, 771], [111, 768], [111, 769], [111, 770], [111, 771], [111, 776]]⟩,
   ⟨249, [[117, 768], [117, 769], [117, 770], [117, 776], [121, 769]]⟩,
   ⟨255, [[121, 776], [65, 772], [97, 772], [65, 774], [97, 774], [65, 808], [97, 808], [67, 769],
     [99, 769], [67, 770], [99, 770], [67, 775], [99, 775], [67, 780], [99, 780], [68, 780],
     [100, 780]]⟩,
   ⟨274, [[69, 772], [101, 772], [69, 774], [101, 774], [69, 775], [101, 775], [69, 808],
     [101, 808], [69, 780], [101, 780], [71, 770], [103, 770], [71, 774], [103, 774], [71, 775],
     [103, 775], [71, 807], [103, 807], [72, 770], [104, 770]]⟩,
   ⟨296, [[73, 771], [105, 771], [73, 772], [105, 772], [73, 774], [105, 774], [73, 808],
     [105, 808], [73, 775]]⟩, ⟨308, [[74, 770], [106, 770], [75, 807], [107, 807]]⟩,
   ⟨313, [[76, 769], [108, 769], [76, 807], [108, 807], [76, 780], [108, 780]]⟩,
   ⟨323, [[78, 769], [110, 769], [78, 807], [110, 807], [78, 780], [110, 780]]⟩,
   ⟨332, [[79, 772], [111, 772], [79, 774], [111, 774], [79, 779], [111, 779]]⟩,
   ⟨340, [[82, 769], [114, 769], [82, 807], [114, 807], [82, 780], [114, 780], [83, 769],
     [115, 769], [83, 770], [115, 770], [83, 807], [115, 807], [83, 780], [115, 780], [84, 807],
     [116, 807], [84, 780], [116, 780]]⟩,
   ⟨360, [[85, 771], [117, 771], [85, 772], [117, 772], [85, 774], [117, 774], [85, 778],
     [117, 778], [85, 779], [117, 779], [85, 808], [117, 808], [87, 770], [119, 770], [89, 770],
     [121, 770], [89, 776], [90, 769], [122, 769], [90, 775], [122, 775], [90, 780], [122, 780]]⟩,
   ⟨416, [[79, 795], [111, 795]]⟩, ⟨431, [[85, 795], [117, 795]]⟩,
   ⟨461, [[65, 780], [97, 780], [73, 780], [105, 780], [79, 780], [111, 780], [85, 780], [117, 780],
     [85, 776, 772], [117, 776, 772], [85, 776, 769], [117, 776, 769], [85, 776, 780],
     [117, 776, 780], [85, 776, 768], [117, 776, 768]]⟩,
   ⟨478, [[65, 776, 772], [97, 776, 772], [65, 775, 772], [97, 775, 772], [198, 772], [230, 772]]⟩,
   ⟨486, [[71, 780], [103, 780], [75, 780], [107, 780], [79, 808], [111, 808], [79, 808, 772],
     [111, 808, 772], [439, 780], [658, 780], [106, 780]]⟩, ⟨500, [[71, 769], [103, 769]]⟩,
   ⟨504, [[78, 768], [110, 768], [65, 778, 769], [97, 778, 769], [198, 769], [230, 769], [216, 769],
     [248, 769], [65, 783], [97, 783], [65, 785], [97, 785], [69, 783], [101, 783], [69, 785],
     [101, 785], [73, 783], [105, 783], [73, 785], [105, 785], [79, 783], [111, 783], [79, 785],
     [111, 785], [82, 783], [114, 783], [82, 785], [114, 785], [85, 783], [117, 783], [85, 785],
     [117, 785], [83, 806], [115, 806], [84, 806], [116, 806]]⟩, ⟨542, [[72, 780], [104, 780]]⟩,
   ⟨550, [[65, 775], [97, 775], [69, 807], [101, 807], [79, 776, 772], [111, 776, 772],
     [79, 771, 772], [111, 771, 772], [79, 775], [111, 775], [79, 775, 772], [111, 775, 772],
     [89, 772], [121, 772]]⟩, ⟨836, [[776, 769]]⟩, ⟨901, [[168, 769], [913, 769]]⟩,
   ⟨904, [[917, 769], [919, 769], [921, 769]]⟩, ⟨908, [[927, 769]]⟩,
   ⟨910, [[933, 769], [937, 769], [953, 776, 769]]⟩,
   ⟨938, [[921, 776], [933, 776], [945, 769], [949, 769], [951, 769], [953, 769], [965, 776, 769]]⟩,
   ⟨970, [[953, 776], [965, 776], [959, 769], [965, 769], [969, 769]]⟩,
   ⟨979, [[978, 769], [978, 776]]⟩, ⟨1024, [[1045, 768], [1045, 776]]⟩, ⟨1027, [[1043, 769]]⟩,
   ⟨1031, [[1030, 776]]⟩, ⟨1036, [[1050, 769], [1048, 768], [1059, 774]]⟩, ⟨1049, [[1048, 774]]⟩,
   ⟨1081, [[1080, 774]]⟩, ⟨1104, [[1077, 768], [1077, 776]]⟩, ⟨1107, [[1075, 769]]⟩,
   ⟨1111, [[1110, 776]]⟩, ⟨1116, [[1082, 769], [1080, 768], [1091, 774]]⟩,
   ⟨1142, [[1140, 783], [1141, 783]]⟩, ⟨1217, [[1046, 774], [1078, 774]]⟩,
   ⟨1232, [[1040, 774], [1072, 774], [1040, 776], [1072, 776]]⟩, ⟨1238, [[1045, 774], [1077, 774]]⟩,
   ⟨1242, [[1240, 776], [1241, 776], [1046, 776], [1078, 776], [1047, 776], [1079, 776]]⟩,
   ⟨1250, [[1048, 772], [1080, 772], [1048, 776], [1080, 776], [1054, 776], [1086, 776]]⟩,
   ⟨1258, [[1256, 776], [1257, 776], [1069, 776], [1101, 776], [1059, 772], [1091, 772],
     [1059, 776], [1091, 776], [1059, 779], [1091, 779], [1063, 776], [1095, 776]]⟩,
   ⟨1272, [[1067, 776], [1099, 776]]⟩,
   ⟨1570, [[1575, 1619], [1575, 1620], [1608, 1620], [1575, 1621], [1610, 1620]]⟩,
   ⟨1728, [[1749, 1620]]⟩, ⟨1730, [[1729, 1620]]⟩, ⟨1747, [[1746, 1620]]⟩, ⟨2345, [[2344, 2364]]⟩,
   ⟨2353, [[2352, 2364]]⟩, ⟨2356, [[2355, 2364]]⟩,
   ⟨2392, [[2325, 2364], [2326, 2364], [2327, 2364], [2332, 2364], [2337, 2364], [2338, 2364],
     [2347, 2364], [2351, 2364]]⟩, ⟨2507, [[2503, 2494], [2503, 2519]]⟩,
   ⟨2524, [[2465, 2492], [2466, 2492]]⟩, ⟨2527, [[2479, 2492]]⟩, ⟨2611, [[2610, 2620]]⟩,
   ⟨2614, [[2616, 2620]]⟩, ⟨2649, [[2582, 2620], [2583, 2620], [2588, 2620]]⟩,
   ⟨2654, [[2603, 2620]]⟩, ⟨2888, [[2887, 2902]]⟩, ⟨2891, [[2887, 2878], [2887, 2903]]⟩,
   ⟨2908, [[2849, 2876], [2850, 2876]]⟩, ⟨2964, [[2962, 3031]]⟩,
   ⟨3018, [[3014, 3006], [3015, 3006], [3014, 3031]]⟩, ⟨3144, [[3142, 3158]]⟩,
   ⟨3264, [[3263, 3285]]⟩, ⟨3271, [[3270, 3285], [3270, 3286]]⟩,
   ⟨3274, [[3270, 3266], [3270, 3266, 3285]]⟩, ⟨3402, [[3398, 3390], [3399, 3390], [3398, 3415]]⟩,
   ⟨3546, [[3545, 3530]]⟩, ⟨3548, [[3545, 3535], [3545, 3535, 3530], [3545, 3551]]⟩,
   ⟨3907, [[3906, 4023]]⟩, ⟨3917, [[3916, 4023]]⟩, ⟨3922, [[3921, 4023]]⟩, ⟨3927, [[3926, 4023]]⟩,
   ⟨3932, [[3931, 4023]]⟩, ⟨3945, [[3904, 4021]]⟩, ⟨3955, [[3953, 3954]]⟩,
   ⟨3957, [[3953, 3956], [4018, 3968]]⟩, ⟨3960, [[4019, 3968]]⟩, ⟨3969, [[3953, 3968]]⟩,
   ⟨3987, [[3986, 4023]]⟩, ⟨3997, [[3996, 4023]]⟩, ⟨4002, [[4001, 4023]]⟩, ⟨4007, [[4006, 4023]]⟩,
   ⟨4012, [[4011, 4023]]⟩, ⟨4025, [[3984, 4021]]⟩, ⟨4134, [[4133, 4142]]⟩, ⟨6918, [[6917, 6965]]⟩,
   ⟨6920, [[6919, 6965]]⟩, ⟨6922, [[6921, 6965]]⟩, ⟨6924, [[6923, 6965]]⟩, ⟨6926, [[6925, 6965]]⟩,
   ⟨6930, [[6929, 6965]]⟩, ⟨6971, [[6970, 6965]]⟩, ⟨6973, [[6972, 6965]]⟩,
   ⟨6976, [[6974, 6965], [6975, 6965]]⟩, ⟨6979, [[6978, 6965]]⟩,
   ⟨7680, [[65, 805], [97, 805], [66, 775], [98, 775], [66, 803], [98, 803], [66, 817], [98, 817],
     [67, 807, 769], [99, 807, 769], [68, 775], [100, 775], [68, 803], [100, 803], [68, 817],
     [100, 817], [68, 807], [100, 807], [68, 813], [100, 813], [69, 772, 768], [101, 772, 768],
     [69, 772, 769], [101, 772, 769], [69, 813], [101, 813], [69, 816], [101, 816], [69, 807, 774],
     [101, 807, 774], [70, 775], [102, 775], [71, 772], [103, 772], [72, 775], [104, 775],
     [72, 803], [104, 803], [72, 776], [104, 776], [72, 807], [104, 807], [72, 814], [104, 814],
     [73, 816], [105, 816], [73, 776, 769], [105, 776, 769], [75, 769], [107, 769], [75, 803],
     [107, 803], [75, 817], [107, 817], [76, 803], [108, 803], [76, 803, 772], [108, 803, 772],
     [76, 817], [108, 817], [76, 813], [108, 813], [77, 769], [109, 769], [77, 775], [109, 775],
     [77, 803], [109, 803], [78, 775], [110, 775], [78, 803], [110, 803], [78, 817], [110, 817],
     [78, 813], [110, 813], [79, 771, 769], [111, 771, 769], [79, 771, 776], [111, 771, 776],
     [79, 772, 768], [111, 772, 768], [79, 772, 769], [111, 772, 769], [80, 769], [112, 769],
     [80, 775], [112, 775], [82, 775], [114, 775], [82, 803], [114, 803], [82, 803, 772],
     [114, 803, 772], [82, 817], [114, 817], [83, 775], [115, 775], [83, 803], [115, 803],
     [83, 769, 775], [115, 769, 775], [83, 780, 775], [115, 780, 775], [83, 803, 775],
     [115, 803, 775], [84, 775], [116, 775], [84, 803], [116, 803], [84, 817], [116, 817],
     [84, 813], [116, 813], [85, 804], [117, 804], [85, 816], [117, 816], [85, 813], [117, 813],
     [85, 771, 769], [117, 771, 769], [85, 772, 776], [117, 772, 776], [86, 771], [118, 771],
     [86, 803], [118, 803], [87, 768], [119, 768], [87, 769], [119, 769], [87, 776], [119, 776],
     [87, 775], [119, 775], [87, 803], [119, 803], [88, 775], [120, 775], [88, 776], [120, 776],
     [89, 775], [121, 775], [90, 770], [122, 770], [90, 803], [122, 803], [90, 817], [122, 817],
     [104, 817], [116, 776], [119, 778], [121, 778]]⟩, ⟨7835, [[383, 775]]⟩,
   ⟨7840, [[65, 803], [97, 803], [65, 777], [97, 777], [65, 770, 769], [97, 770, 769],
     [65, 770, 768], [97, 770, 768], [65, 770, 777], [97, 770, 777], [65, 770, 771], [97, 770, 771],
     [65, 803, 770], [97, 803, 770], [65, 774, 769], [97, 774, 769], [65, 774, 768], [97, 774, 768],
     [65, 774, 777], [97, 774, 777], [65, 774, 771], [97, 774, 771], [65, 803, 774], [97, 803, 774],
     [69, 803], [101, 803], [69, 777], [101, 777], [69, 771], [101, 771], [69, 770, 769],
     [101, 770, 769], [69, 770, 768], [101, 770, 768], [69, 770, 777], [101, 770, 777],
     [69, 770, 771], [101, 770, 771], [69, 803, 770], [101, 803, 770], [73, 777], [105, 777],
     [73, 803], [105, 803], [79, 803], [111, 803], [79, 777], [111, 777], [79, 770, 769],
     [111, 770, 769], [79, 770, 768], [111, 770, 768], [79, 770, 777], [111, 770, 777],
     [79, 770, 771], [111, 770, 771], [79, 803, 770], [111, 803, 770], [79, 795, 769],
     [111, 795, 769], [79, 795, 768], [111, 795, 768], [79, 795, 777], [111, 795, 777],
     [79, 795, 771], [111, 795, 771], [79, 795, 803], [111, 795, 803], [85, 803], [117, 803],
     [85, 777], [117, 777], [85, 795, 769], [117, 795, 769], [85, 795, 768], [117, 795, 768],
     [85, 795, 777], [117, 795, 777], [85, 795, 771], [117, 795, 771], [85, 795, 803],
     [117, 795, 803], [89, 768], [121, 768], [89, 803], [121, 803], [89, 777], [121, 777],
     [89, 771], [121, 771]]⟩,
   ⟨7936, [[945, 787], [945, 788], [945, 787, 768], [945, 788, 768], [945, 787, 769],
     [945, 788, 769], [945, 787, 834], [945, 788, 834], [913, 787], [913, 788], [913, 787, 768],
     [913, 788, 768], [913, 787, 769], [913, 788, 769], [913, 787, 834], [913, 788, 834],
     [949, 787], [949, 788], [949, 787, 768], [949, 788, 768], [949, 787, 769], [949, 788, 769]]⟩,
   ⟨7960, [[917, 787], [917, 788], [917, 787, 768], [917, 788, 768], [917, 787, 769],
     [917, 788, 769]]⟩,
   ⟨7968, [[951, 787], [951, 788], [951, 787, 768], [951, 788, 768], [951, 787, 769],
     [951, 788, 769], [951, 787, 834], [951, 788, 834], [919, 787], [919, 788], [919, 787, 768],
     [919, 788, 768], [919, 787, 769], [919, 788, 769], [919, 787, 834], [919, 788, 834],
     [953, 787], [953, 788], [953, 787, 768], [953, 788, 768], [953, 787, 769], [953, 788, 769],
     [953, 787, 834], [953, 788, 834], [921, 787], [921, 788], [921, 787, 768], [921, 788, 768],
     [921, 787, 769], [921, 788, 769], [921, 787, 834], [921, 788, 834], [959, 787], [959, 788],
     [959, 787, 768], [959, 788, 768], [959, 787, 769], [959, 788, 769]]⟩,
   ⟨8008, [[927, 787], [927, 788], [927, 787, 768], [927, 788, 768], [927, 787, 769],
     [927, 788, 769]]⟩,
   ⟨8016, [[965, 787], [965, 788], [965, 787, 768], [965, 788, 768], [965, 787, 769],
     [965, 788, 769], [965, 787, 834], [965, 788, 834]]⟩, ⟨8025, [[933, 788]]⟩,
   ⟨8027, [[933, 788, 768]]⟩, ⟨8029, [[933, 788, 769]]⟩,
   ⟨8031, [[933, 788, 834], [969, 787], [969, 788], [969, 787, 768], [969, 788, 768],
     [969, 787, 769], [969, 788, 769], [969, 787, 834], [969, 788, 834], [937, 787], [937, 788],
     [937, 787, 768], [937, 788, 768], [937, 787, 769], [937, 788, 769], [937, 787, 834],
     [937, 788, 834], [945, 768], [945, 769], [949, 768], [949, 769], [951, 768], [951, 769],
     [953, 768], [953, 769], [959, 768], [959, 769], [965, 768], [965, 769], [969, 768],
     [969, 769]]⟩,
   ⟨8064, [[945, 787, 837], [945, 788, 837], [945, 787, 768, 837], [945, 788, 768, 837],
     [945, 787, 769, 837], [945, 788, 769, 837], [945, 787, 834, 837], [945, 788, 834, 837],
     [913, 787, 837], [913, 788, 837], [913, 787, 768, 837], [913, 788, 768, 837],
     [913, 787, 769, 837], [913, 788, 769, 837], [913, 787, 834, 837], [913, 788, 834, 837],
     [951, 787, 837], [951, 788, 837], [951, 787, 768, 837], [951, 788, 768, 837],
     [951, 787, 769, 837], [951, 788, 769, 837], [951, 787, 834, 837], [951, 788, 834, 837],
     [919, 787, 837], [919, 788, 837], [919, 787, 768, 837], [919, 788, 768, 837],
     [919, 787, 769, 837], [919, 788, 769, 837], [919, 787, 834, 837], [919, 788, 834, 837],
     [969, 787, 837], [969, 788, 837], [969, 787, 768, 837], [969, 788, 768, 837],
     [969, 787, 769, 837], [969, 788, 769, 837], [969, 787, 834, 837], [969, 788, 834, 837],
     [937, 787, 837], [937, 788, 837], [937, 787, 768, 837], [937, 788, 768, 837],
     [937, 787, 769, 837], [937, 788, 769, 837], [937, 787, 834, 837], [937, 788, 834, 837],
     [945, 774], [945, 772], [945, 768, 837], [945, 837], [945, 769, 837]]⟩,
   ⟨8118, [[945, 834], [945, 834, 837], [913, 774], [913, 772], [913, 768], [913, 769],
     [913, 837]]⟩, ⟨8129, [[168, 834], [951, 768, 837], [951, 837], [951, 769, 837]]⟩,
   ⟨8134, [[951, 834], [951, 834, 837], [917, 768], [917, 769], [919, 768], [919, 769], [919, 837],
     [8127, 768], [8127, 769], [8127, 834], [953, 774], [953, 772], [953, 776, 768],
     [953, 776, 769]]⟩,
   ⟨8150, [[953, 834], [953, 776, 834], [921, 774], [921, 772], [921, 768], [921, 769]]⟩,
   ⟨8157, [[8190, 768], [8190, 769], [8190, 834], [965, 774], [965, 772], [965, 776, 768],
     [965, 776, 769], [961, 787], [961, 788], [965, 834], [965, 776, 834], [933, 774], [933, 772],
     [933, 768], [933, 769], [929, 788], [168, 768], [168, 769]]⟩,
   ⟨8178, [[969, 768, 837], [969, 837], [969, 769, 837]]⟩,
   ⟨8182, [[969, 834], [969, 834, 837], [927, 768], [927, 769], [937, 768], [937, 769],
     [937, 837]]⟩, ⟨8491, [[65, 778]]⟩, ⟨8602, [[8592, 824], [8594, 824]]⟩, ⟨8622, [[8596, 824]]⟩,
   ⟨8653, [[8656, 824], [8660, 824], [8658, 824]]⟩, ⟨8708, [[8707, 824]]⟩, ⟨8713, [[8712, 824]]⟩,
   ⟨8716, [[8715, 824]]⟩, ⟨8740, [[8739, 824]]⟩, ⟨8742, [[8741, 824]]⟩, ⟨8769, [[8764, 824]]⟩,
   ⟨8772, [[8771, 824]]⟩, ⟨8775, [[8773, 824]]⟩, ⟨8777, [[8776, 824]]⟩, ⟨8800, [[61, 824]]⟩,
   ⟨8802, [[8801, 824]]⟩, ⟨8813, [[8781, 824], [60, 824], [62, 824], [8804, 824], [8805, 824]]⟩,
   ⟨8820, [[8818, 824], [8819, 824]]⟩, ⟨8824, [[8822, 824], [8823, 824]]⟩,
   ⟨8832, [[8826, 824], [8827, 824]]⟩, ⟨8836, [[8834, 824], [8835, 824]]⟩,
   ⟨8840, [[8838, 824], [8839, 824]]⟩, ⟨8876, [[8866, 824], [8872, 824], [8873, 824], [8875, 824]]⟩,
   ⟨8928, [[8828, 824], [8829, 824], [8849, 824], [8850, 824]]⟩,
   ⟨8938, [[8882, 824], [8883, 824], [8884, 824], [8885, 824]]⟩, ⟨10972, [[10973, 824]]⟩,
   ⟨12364, [[12363, 12441]]⟩, ⟨12366, [[12365, 12441]]⟩, ⟨12368, [[12367, 12441]]⟩,
   ⟨12370, [[12369, 12441]]⟩, ⟨12372, [[12371, 12441]]⟩, ⟨12374, [[12373, 12441]]⟩,
   ⟨12376, [[12375, 12441]]⟩, ⟨12378, [[12377, 12441]]⟩, ⟨12380, [[12379, 12441]]⟩,
   ⟨12382, [[12381, 12441]]⟩, ⟨12384, [[12383, 12441]]⟩, ⟨12386, [[12385, 12441]]⟩,
   ⟨12389, [[12388, 12441]]⟩, ⟨12391, [[12390, 12441]]⟩, ⟨12393, [[12392, 12441]]⟩,
   ⟨12400, [[12399, 12441], [12399, 12442]]⟩, ⟨12403, [[12402, 12441], [12402, 12442]]⟩,
   ⟨12406, [[12405, 12441], [12405, 12442]]⟩, ⟨12409, [[12408, 12441], [12408, 12442]]⟩,
   ⟨12412, [[12411, 12441], [12411, 12442]]⟩, ⟨12436, [[12358, 12441]]⟩, ⟨12446, [[12445, 12441]]⟩,
   ⟨12460, [[12459, 12441]]⟩, ⟨12462, [[12461, 12441]]⟩, ⟨12464, [[12463, 12441]]⟩,
   ⟨12466, [[12465, 12441]]⟩, ⟨12468, [[12467, 12441]]⟩, ⟨12470, [[12469, 12441]]⟩,
   ⟨12472, [[12471, 12441]]⟩, ⟨12474, [[12473, 12441]]⟩, ⟨12476, [[12475, 12441]]⟩,
   ⟨12478, [[12477, 12441]]⟩, ⟨12480, [[12479, 12441]]⟩, ⟨12482, [[12481, 12441]]⟩,
   ⟨12485, [[12484, 12441]]⟩, ⟨12487, [[12486, 12441]]⟩, ⟨12489, [[12488, 12441]]⟩,
   ⟨12496, [[12495, 12441], [12495, 12442]]⟩, ⟨12499, [[12498, 12441], [12498, 12442]]⟩,
   ⟨12502, [[12501, 12441], [12501, 12442]]⟩, ⟨12505, [[12504, 12441], [12504, 12442]]⟩,
   ⟨12508, [[12507, 12441], [12507, 12442]]⟩, ⟨12532, [[12454, 12441]]⟩,
   ⟨12535, [[12527, 12441], [12528, 12441], [12529, 12441], [12530, 12441]]⟩,
   ⟨12542, [[12541, 12441]]⟩, ⟨64285, [[1497, 1460]]⟩, ⟨64287, [[1522, 1463]]⟩,
   ⟨64298, [[1513, 1473], [1513, 1474], [1513, 1468, 1473], [1513, 1468, 1474], [1488, 1463],
     [1488, 1464], [1488, 1468], [1489, 1468], [1490, 1468], [1491, 1468], [1492, 1468],
     [1493, 1468], [1494, 1468]]⟩,
   ⟨64312, [[1496, 1468], [1497, 1468], [1498, 1468], [1499, 1468], [1500, 1468]]⟩,
   ⟨64318, [[1502, 1468]]⟩, ⟨64320, [[1504, 1468], [1505, 1468]]⟩,
   ⟨64323, [[1507, 1468], [1508, 1468]]⟩,
   ⟨64326, [[1510, 1468], [1511, 1468], [1512, 1468], [1513, 1468], [1514, 1468], [1493, 1465],
     [1489, 1471], [1499, 1471], [1508, 1471]]⟩, ⟨67017, [[67026, 775]]⟩, ⟨67044, [[67034, 775]]⟩,
   ⟨69786, [[69785, 69818]]⟩, ⟨69788, [[69787, 69818]]⟩, ⟨69803, [[69797, 69818]]⟩,
   ⟨69934, [[69937, 69927], [69938, 69927]]⟩, ⟨70475, [[70471, 70462], [70471, 70487]]⟩,
   ⟨70531, [[70530, 70601]]⟩, ⟨70533, [[70532, 70587]]⟩, ⟨70542, [[70539, 70594]]⟩,
   ⟨70545, [[70544, 70601]]⟩, ⟨70597, [[70594, 70594]]⟩, ⟨70599, [[70594, 70584], [70594, 70601]]⟩,
   ⟨70843, [[70841, 70842], [70841, 70832]]⟩, ⟨70846, [[70841, 70845]]⟩,
   ⟨71098, [[71096, 71087], [71097, 71087]]⟩, ⟨71992, [[71989, 71984]]⟩,
   ⟨90401, [[90398, 90398], [90398, 90409], [90398, 90399], [90409, 90399], [90398, 90400],
     [90398, 90398, 90399], [90398, 90409, 90399], [90398, 90398, 90400]]⟩,
   ⟨93544, [[93543, 93543], [93539, 93543], [93539, 93543, 93543]]⟩,
   ⟨119134, [[119127, 119141], [119128, 119141], [119128, 119141, 119150], [119128, 119141, 119151],
     [119128, 119141, 119152], [119128, 119141, 119153], [119128, 119141, 119154]]⟩,
   ⟨119227, [[119225, 119141], [119226, 119141], [119225, 119141, 119150], [119226, 119141, 119150],
     [119225, 119141, 119151], [119226, 119141, 119151]]⟩]

/-- The combining classes of marks, and the marks of each. -/
def combiningClasses : List (Nat × CodeSet) :=
  [(1, ⟨[820, 825, 7380, 7381, 7394, 7401, 8402, 8404, 8408, 8411, 8421, 8423, 8426, 8428, 68153,
     68154, 92912, 92917, 113822, 113823, 119143, 119146]⟩), (6, ⟨[94192, 94194]⟩),
   (7, ⟨[2364, 2365, 2492, 2493, 2620, 2621, 2748, 2749, 2876, 2877, 3132, 3133, 3260, 3261, 4151,
     4152, 6964, 6965, 7142, 7143, 7223, 7224, 43443, 43444, 69818, 69819, 70003, 70004, 70090,
     70091, 70198, 70199, 70377, 70378, 70459, 70461, 70726, 70727, 70851, 70852, 71104, 71105,
     71351, 71352, 71738, 71739, 72003, 72004, 73026, 73027, 125258, 125259]⟩),
   (8, ⟨[12441, 12443]⟩),
   (9, ⟨[2381, 2382, 2509, 2510, 2637, 2638, 2765, 2766, 2893, 2894, 3021, 3022, 3149, 3150, 3277,
     3278, 3387, 3389, 3405, 3406, 3530, 3531, 3642, 3643, 3770, 3771, 3972, 3973, 4153, 4155, 5908,
     5910, 5940, 5941, 6098, 6099, 6752, 6753, 6980, 6981, 7082, 7084, 7154, 7156, 11647, 11648,
     43014, 43015, 43052, 43053, 43204, 43205, 43347, 43348, 43456, 43457, 43766, 43767, 44013,
     44014, 68159, 68160, 69702, 69703, 69744, 69745, 69759, 69760, 69817, 69818, 69939, 69941,
     70080, 70081, 70197, 70198, 70378, 70379, 70477, 70478, 70606, 70609, 70722, 70723, 70850,
     70851, 71103, 71104, 71231, 71232, 71350, 71351, 71467, 71468, 71737, 71738, 71997, 71999,
     72160, 72161, 72244, 72245, 72263, 72264, 72345, 72346, 72767, 72768, 73028, 73030, 73111,
     73112, 73537, 73539, 90415, 90416]⟩), (10, ⟨[1456, 1457]⟩), (11, ⟨[1457, 1458]⟩),
   (12, ⟨[1458, 1459]⟩), (13, ⟨[1459, 1460]⟩), (14, ⟨[1460, 1461]⟩), (15, ⟨[1461, 1462]⟩),
   (16, ⟨[1462, 1463]⟩), (17, ⟨[1463, 1464]⟩), (18, ⟨[1464, 1465, 1479, 1480]⟩),
   (19, ⟨[1465, 1467]⟩), (20, ⟨[1467, 1468]⟩), (21, ⟨[1468, 1469]⟩), (22, ⟨[1469, 1470]⟩),
   (23, ⟨[1471, 1472]⟩), (24, ⟨[1473, 1474]⟩), (25, ⟨[1474, 1475]⟩), (26, ⟨[64286, 64287]⟩),
   (27, ⟨[1611, 1612, 2288, 2289]⟩), (28, ⟨[1612, 1613, 2289, 2290]⟩),
   (29, ⟨[1613, 1614, 2290, 2291]⟩), (30, ⟨[1560, 1561, 1614, 1615]⟩),
   (31, ⟨[1561, 1562, 1615, 1616]⟩), (32, ⟨[1562, 1563, 1616, 1617]⟩), (33, ⟨[1617, 1618]⟩),
   (34, ⟨[1618, 1619]⟩), (35, ⟨[1648, 1649]⟩), (36, ⟨[1809, 1810]⟩), (84, ⟨[3157, 3158]⟩),
   (91, ⟨[3158, 3159]⟩), (103, ⟨[3640, 3642]⟩), (107, ⟨[3656, 3660]⟩), (118, ⟨[3768, 3770]⟩),
   (122, ⟨[3784, 3788]⟩), (129, ⟨[3953, 3954]⟩), (130, ⟨[3954, 3955, 3962, 3966, 3968, 3969]⟩),
   (132, ⟨[3956, 3957]⟩), (202, ⟨[801, 803, 807, 809, 7632, 7633]⟩), (214, ⟨[7630, 7631]⟩),
   (216, ⟨[795, 796, 3897, 3898, 119141, 119143, 119150, 119155]⟩),
   (218, ⟨[7674, 7675, 12330, 12331]⟩),
   (220, ⟨[790, 794, 796, 801, 803, 807, 809, 820, 825, 829, 839, 842, 845, 847, 851, 855, 857, 859,
     1425, 1426, 1430, 1431, 1435, 1436, 1442, 1448, 1450, 1451, 1477, 1478, 1621, 1623, 1628, 1629,
     1631, 1632, 1763, 1764, 1770, 1771, 1773, 1774, 1841, 1842, 1844, 1845, 1847, 1850, 1851, 1853,
     1854, 1855, 1858, 1859, 1860, 1861, 1862, 1863, 1864, 1865, 2034, 2035, 2045, 2046, 2137, 2140,
     2201, 2204, 2255, 2260, 2275, 2276, 2278, 2279, 2281, 2282, 2285, 2288, 2294, 2295, 2297, 2299,
     2386, 2387, 3864, 3866, 3893, 3894, 3895, 3896, 4038, 4039, 4237, 4238, 6459, 6460, 6680, 6681,
     6783, 6784, 6837, 6843, 6845, 6846, 6847, 6849, 6851, 6853, 6858, 6859, 7020, 7021, 7381, 7386,
     7388, 7392, 7405, 7406, 7618, 7619, 7626, 7627, 7631, 7632, 7673, 7674, 7677, 7678, 7679, 7680,
     8424, 8425, 8428, 8432, 43307, 43310, 43700, 43701, 65063, 65070, 66045, 66046, 66272, 66273,
     68109, 68110, 68154, 68155, 68326, 68327, 69373, 69376, 69446, 69448, 69451, 69452, 69453,
     69457, 69507, 69508, 69509, 69510, 119163, 119171, 119178, 119180, 124142, 124143, 124399,
     124400, 125136, 125143]⟩), (222, ⟨[1434, 1435, 1453, 1454, 6457, 6458, 12333, 12334]⟩),
   (224, ⟨[12334, 12336]⟩), (226, ⟨[119149, 119150]⟩),
   (228, ⟨[1454, 1455, 6313, 6314, 7671, 7673, 12331, 12332]⟩),
   (230, ⟨[768, 789, 829, 837, 838, 839, 842, 845, 848, 851, 855, 856, 859, 860, 867, 880, 1155,
     1160, 1426, 1430, 1431, 1434, 1436, 1442, 1448, 1450, 1451, 1453, 1455, 1456, 1476, 1477, 1552,
     1560, 1619, 1621, 1623, 1628, 1629, 1631, 1750, 1757, 1759, 1763, 1764, 1765, 1767, 1769, 1771,
     1773, 1840, 1841, 1842, 1844, 1845, 1847, 1850, 1851, 1853, 1854, 1855, 1858, 1859, 1860, 1861,
     1862, 1863, 1864, 1865, 1867, 2027, 2034, 2035, 2036, 2070, 2074, 2075, 2084, 2085, 2088, 2089,
     2094, 2199, 2201, 2204, 2208, 2250, 2255, 2260, 2274, 2276, 2278, 2279, 2281, 2282, 2285, 2291,
     2294, 2295, 2297, 2299, 2304, 2385, 2386, 2387, 2389, 2558, 2559, 3970, 3972, 3974, 3976, 4957,
     4960, 6109, 6110, 6458, 6459, 6679, 6680, 6773, 6781, 6832, 6837, 6843, 6845, 6849, 6851, 6853,
     6858, 6859, 6863, 7019, 7020, 7021, 7028, 7376, 7379, 7386, 7388, 7392, 7393, 7412, 7413, 7416,
     7418, 7616, 7618, 7619, 7626, 7627, 7629, 7633, 7670, 7675, 7676, 7678, 7679, 8400, 8402, 8404,
     8408, 8411, 8413, 8417, 8418, 8423, 8424, 8425, 8426, 8432, 8433, 11503, 11506, 11744, 11776,
     42607, 42608, 42612, 42622, 42654, 42656, 42736, 42738, 43232, 43250, 43696, 43697, 43698,
     43700, 43703, 43705, 43710, 43712, 43713, 43714, 65056, 65063, 65070, 65072, 66422, 66427,
     68111, 68112, 68152, 68153, 68325, 68326, 68900, 68904, 68969, 68974, 69291, 69293, 69448,
     69451, 69452, 69453, 69506, 69507, 69508, 69509, 69888, 69891, 70502, 70509, 70512, 70517,
     70750, 70751, 92976, 92983, 119173, 119178, 119210, 119214, 119362, 119365, 122880, 122887,
     122888, 122905, 122907, 122914, 122915, 122917, 122918, 122923, 123023, 123024, 123184, 123191,
     123566, 123567, 123628, 123632, 124143, 124144, 124398, 124399, 125252, 125258]⟩),
   (232, ⟨[789, 790, 794, 795, 856, 857, 7670, 7671, 12332, 12333, 124140, 124142]⟩),
   (233, ⟨[860, 861, 863, 864, 866, 867, 7676, 7677]⟩), (234, ⟨[861, 863, 864, 866, 7629, 7630]⟩),
   (240, ⟨[837, 838]⟩)]

/-! ### Taking characters apart -/

/-- The letters of a Hangul syllable: a consonant, a vowel, and perhaps
another consonant. -/
def syllable? (c : Nat) : Option (List Nat) :=
  if 44032 ≤ c ∧ c < 55204 then
    let vowel := (c - 44032) % 588 / 28
    let last := (c - 44032) % 28
    some ([4352 + (c - 44032) / 588, 4449 + vowel] ++ if last = 0 then [] else [4519 + last])
  else none

/-- The code points that a listed one falls into. -/
def listed? (c : Nat) : Option (List Nat) :=
  match canonicalSingles.findSome? (·.form? c) with
  | some n => some [n]
  | none => canonicalForms.findSome? (·.form? c)

/-- The characters that one falls into; most are only themselves. -/
def decompose (c : Char) : List Char :=
  match (syllable? c.toNat).or (listed? c.toNat) with
  | some form => form.map Char.ofNat
  | none => [c]

/-! ### The order of marks -/

/-- The class of a mark, which is 0 for what is no mark. -/
def combiningClass (c : Char) : Nat :=
  ((combiningClasses.find? (·.2.contains c)).map Prod.fst).getD 0

/-- Puts a character in front of a text in order: a mark goes behind the
marks of lower classes that it meets there. -/
def insertMark (c : Char) : List Char → List Char
  | [] => [c]
  | d :: rest =>
    if combiningClass d ≠ 0 ∧ combiningClass d < combiningClass c then d :: insertMark c rest
    else c :: d :: rest

/-- Puts the marks behind each letter in order. Marks of one class stay as
they are. -/
def orderMarks (cs : List Char) : List Char :=
  cs.foldr insertMark []

/-! ### The canonical form -/

/-- The form that all spellings of a text have in common. It is irreducible, as
no proof should go through the tables unasked. -/
@[irreducible] def canonical (s : String) : String :=
  String.ofList (orderMarks (s.toList.flatMap decompose))

end EnumCompanion.Text
