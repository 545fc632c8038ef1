/-!
# Direction and joining

Which way the letters of a label run, and with which neighbours a letter of a cursive script joins.
The tables (`unicodedata.bidirectional`) hold characters of host names; all others run from left to
right and do not join.
-/
namespace Compliance.Text

/-- The direction of a character. -/
inductive Direction where
  | left
  /-- From right to left. -/
  | right
  /-- From right to left, in the scripts that are written with Arabic digits. -/
  | arabic
  | arabicDigit
  | digit
  | separator
  | neutral
  /-- Like the character before it. -/
  | mark
  | invisible
  | unknown
  deriving DecidableEq

/-- Ranges of characters that do not run from left to right. -/
def directions : List (Nat × Nat × Direction) := [
    (45, 45, .separator), (48, 57, .digit), (183, 183, .neutral), (697, 698, .neutral),
    (710, 719, .neutral), (748, 748, .neutral), (768, 831, .mark), (834, 834, .mark),
    (838, 846, .mark), (848, 879, .mark), (885, 885, .neutral), (1155, 1159, .mark),
    (1425, 1469, .mark), (1471, 1471, .mark), (1473, 1474, .mark), (1476, 1477, .mark),
    (1479, 1479, .mark), (1488, 1514, .right), (1519, 1524, .right), (1552, 1562, .mark),
    (1568, 1599, .arabic), (1601, 1610, .arabic), (1611, 1631, .mark), (1632, 1641, .arabicDigit),
    (1646, 1647, .arabic), (1648, 1648, .mark), (1649, 1652, .arabic), (1657, 1747, .arabic),
    (1749, 1749, .arabic), (1750, 1756, .mark), (1759, 1764, .mark), (1765, 1766, .arabic),
    (1767, 1768, .mark), (1770, 1773, .mark), (1774, 1775, .arabic), (1776, 1785, .digit),
    (1786, 1791, .arabic), (1808, 1808, .arabic), (1809, 1809, .mark), (1810, 1839, .arabic),
    (1840, 1866, .mark), (1869, 1957, .arabic), (1958, 1968, .mark), (1969, 1969, .arabic),
    (1984, 2026, .right), (2027, 2035, .mark), (2036, 2037, .right), (2045, 2045, .mark),
    (2048, 2069, .right), (2070, 2073, .mark), (2074, 2074, .right), (2075, 2083, .mark),
    (2084, 2084, .right), (2085, 2087, .mark), (2088, 2088, .right), (2089, 2093, .mark),
    (2112, 2136, .right), (2137, 2139, .mark), (2144, 2154, .arabic), (2160, 2183, .arabic),
    (2185, 2190, .arabic), (2191, 2191, .unknown), (2199, 2199, .unknown), (2200, 2207, .mark),
    (2208, 2249, .arabic), (2250, 2273, .mark), (2275, 2306, .mark), (2362, 2362, .mark),
    (2364, 2364, .mark), (2369, 2376, .mark), (2381, 2381, .mark), (2385, 2391, .mark),
    (2402, 2403, .mark), (2433, 2433, .mark), (2492, 2492, .mark), (2497, 2500, .mark),
    (2509, 2509, .mark), (2530, 2531, .mark), (2558, 2558, .mark), (2561, 2562, .mark),
    (2620, 2620, .mark), (2625, 2626, .mark), (2631, 2632, .mark), (2635, 2637, .mark),
    (2641, 2641, .mark), (2672, 2673, .mark), (2677, 2677, .mark), (2689, 2690, .mark),
    (2748, 2748, .mark), (2753, 2757, .mark), (2759, 2760, .mark), (2765, 2765, .mark),
    (2786, 2787, .mark), (2810, 2815, .mark), (2817, 2817, .mark), (2876, 2876, .mark),
    (2879, 2879, .mark), (2881, 2884, .mark), (2893, 2893, .mark), (2901, 2902, .mark),
    (2914, 2915, .mark), (2946, 2946, .mark), (3008, 3008, .mark), (3021, 3021, .mark),
    (3072, 3072, .mark), (3076, 3076, .mark), (3132, 3132, .mark), (3134, 3136, .mark),
    (3142, 3144, .mark), (3146, 3149, .mark), (3157, 3158, .mark), (3164, 3164, .unknown),
    (3170, 3171, .mark), (3201, 3201, .mark), (3260, 3260, .mark), (3276, 3277, .mark),
    (3292, 3292, .unknown), (3298, 3299, .mark), (3315, 3315, .unknown), (3328, 3329, .mark),
    (3387, 3388, .mark), (3393, 3396, .mark), (3405, 3405, .mark), (3426, 3427, .mark),
    (3457, 3457, .mark), (3530, 3530, .mark), (3538, 3540, .mark), (3542, 3542, .mark),
    (3633, 3633, .mark), (3636, 3642, .mark), (3655, 3662, .mark), (3761, 3761, .mark),
    (3764, 3772, .mark), (3784, 3789, .mark), (3790, 3790, .unknown), (3864, 3865, .mark),
    (3893, 3893, .mark), (3895, 3895, .mark), (3897, 3897, .mark), (3953, 3954, .mark),
    (3956, 3956, .mark), (3962, 3966, .mark), (3968, 3968, .mark), (3970, 3972, .mark),
    (3974, 3975, .mark), (3981, 3986, .mark), (3988, 3991, .mark), (3993, 3996, .mark),
    (3998, 4001, .mark), (4003, 4006, .mark), (4008, 4011, .mark), (4013, 4024, .mark),
    (4026, 4028, .mark), (4038, 4038, .mark), (4141, 4144, .mark), (4146, 4151, .mark),
    (4153, 4154, .mark), (4157, 4158, .mark), (4184, 4185, .mark), (4190, 4192, .mark),
    (4209, 4212, .mark), (4226, 4226, .mark), (4229, 4230, .mark), (4237, 4237, .mark),
    (4253, 4253, .mark), (4957, 4959, .mark), (5906, 5908, .mark), (5938, 5939, .mark),
    (5970, 5971, .mark), (6002, 6003, .mark), (6071, 6077, .mark), (6086, 6086, .mark),
    (6089, 6099, .mark), (6109, 6109, .mark), (6277, 6278, .mark), (6313, 6313, .mark),
    (6432, 6434, .mark), (6439, 6440, .mark), (6450, 6450, .mark), (6457, 6459, .mark),
    (6679, 6680, .mark), (6683, 6683, .mark), (6742, 6742, .mark), (6744, 6750, .mark),
    (6752, 6752, .mark), (6754, 6754, .mark), (6757, 6764, .mark), (6771, 6780, .mark),
    (6783, 6783, .mark), (6832, 6845, .mark), (6847, 6862, .mark), (6863, 6877, .unknown),
    (6880, 6891, .unknown), (6912, 6915, .mark), (6964, 6964, .mark), (6966, 6970, .mark),
    (6972, 6972, .mark), (6978, 6978, .mark), (7019, 7027, .mark), (7040, 7041, .mark),
    (7074, 7077, .mark), (7080, 7081, .mark), (7083, 7085, .mark), (7142, 7142, .mark),
    (7144, 7145, .mark), (7149, 7149, .mark), (7151, 7153, .mark), (7212, 7219, .mark),
    (7222, 7223, .mark), (7306, 7306, .unknown), (7376, 7378, .mark), (7380, 7392, .mark),
    (7394, 7400, .mark), (7405, 7405, .mark), (7412, 7412, .mark), (7416, 7417, .mark),
    (7616, 7679, .mark), (8204, 8205, .invisible), (11503, 11505, .mark), (11647, 11647, .mark),
    (11744, 11775, .mark), (11823, 11823, .neutral), (12330, 12333, .mark), (12441, 12442, .mark),
    (12539, 12539, .neutral), (42607, 42607, .mark), (42612, 42621, .mark),
    (42623, 42623, .neutral), (42654, 42655, .mark), (42736, 42737, .mark),
    (42775, 42783, .neutral), (42888, 42888, .neutral), (42957, 42957, .unknown),
    (42959, 42959, .unknown), (42971, 42971, .unknown), (43010, 43010, .mark),
    (43014, 43014, .mark), (43019, 43019, .mark), (43045, 43046, .mark), (43052, 43052, .mark),
    (43204, 43205, .mark), (43232, 43249, .mark), (43263, 43263, .mark), (43302, 43309, .mark),
    (43335, 43345, .mark), (43392, 43394, .mark), (43443, 43443, .mark), (43446, 43449, .mark),
    (43452, 43453, .mark), (43493, 43493, .mark), (43561, 43566, .mark), (43569, 43570, .mark),
    (43573, 43574, .mark), (43587, 43587, .mark), (43596, 43596, .mark), (43644, 43644, .mark),
    (43696, 43696, .mark), (43698, 43700, .mark), (43703, 43704, .mark), (43710, 43711, .mark),
    (43713, 43713, .mark), (43756, 43757, .mark), (43766, 43766, .mark), (44005, 44005, .mark),
    (44008, 44008, .mark), (44013, 44013, .mark), (64286, 64286, .mark), (65056, 65071, .mark),
    (65139, 65139, .arabic), (66045, 66045, .mark), (66272, 66272, .mark), (66422, 66426, .mark),
    (67008, 67059, .unknown), (67584, 67589, .right), (67592, 67592, .right),
    (67594, 67637, .right), (67639, 67640, .right), (67644, 67644, .right), (67647, 67669, .right),
    (67680, 67702, .right), (67712, 67742, .right), (67808, 67826, .right), (67828, 67829, .right),
    (67840, 67861, .right), (67872, 67897, .right), (67904, 67929, .unknown),
    (67968, 68023, .right), (68030, 68031, .right), (68096, 68096, .right), (68097, 68099, .mark),
    (68101, 68102, .mark), (68108, 68111, .mark), (68112, 68115, .right), (68117, 68119, .right),
    (68121, 68149, .right), (68152, 68154, .mark), (68159, 68159, .mark), (68192, 68220, .right),
    (68224, 68252, .right), (68288, 68295, .right), (68297, 68324, .right), (68325, 68326, .mark),
    (68352, 68405, .right), (68416, 68437, .right), (68448, 68466, .right), (68480, 68497, .right),
    (68608, 68680, .right), (68800, 68850, .right), (68864, 68899, .arabic), (68900, 68903, .mark),
    (68912, 68921, .arabicDigit), (68928, 68943, .unknown), (68969, 68973, .unknown),
    (68975, 68997, .unknown), (69248, 69289, .right), (69291, 69292, .mark), (69296, 69297, .right),
    (69314, 69319, .unknown), (69370, 69375, .unknown), (69376, 69404, .right),
    (69415, 69415, .right), (69424, 69445, .arabic), (69446, 69456, .mark), (69488, 69505, .right),
    (69506, 69509, .mark), (69552, 69572, .right), (69600, 69622, .right), (69633, 69633, .mark),
    (69688, 69702, .mark), (69744, 69744, .mark), (69747, 69748, .mark), (69759, 69761, .mark),
    (69811, 69814, .mark), (69817, 69818, .mark), (69826, 69826, .mark), (69888, 69890, .mark),
    (69927, 69931, .mark), (69933, 69940, .mark), (70003, 70003, .mark), (70016, 70017, .mark),
    (70070, 70078, .mark), (70089, 70092, .mark), (70095, 70095, .mark), (70191, 70193, .mark),
    (70196, 70196, .mark), (70198, 70199, .mark), (70206, 70206, .mark), (70207, 70209, .unknown),
    (70367, 70367, .mark), (70371, 70378, .mark), (70400, 70401, .mark), (70459, 70460, .mark),
    (70464, 70464, .mark), (70502, 70508, .mark), (70512, 70516, .mark), (70528, 70537, .unknown),
    (70539, 70539, .unknown), (70542, 70542, .unknown), (70544, 70581, .unknown),
    (70583, 70592, .unknown), (70594, 70594, .unknown), (70597, 70597, .unknown),
    (70599, 70602, .unknown), (70604, 70611, .unknown), (70625, 70626, .unknown),
    (70712, 70719, .mark), (70722, 70724, .mark), (70726, 70726, .mark), (70750, 70750, .mark),
    (70835, 70840, .mark), (70842, 70842, .mark), (70847, 70848, .mark), (70850, 70851, .mark),
    (71090, 71093, .mark), (71100, 71101, .mark), (71103, 71104, .mark), (71132, 71133, .mark),
    (71219, 71226, .mark), (71229, 71229, .mark), (71231, 71232, .mark), (71339, 71339, .mark),
    (71341, 71341, .mark), (71344, 71349, .mark), (71351, 71351, .mark), (71376, 71395, .unknown),
    (71453, 71455, .mark), (71458, 71461, .mark), (71463, 71467, .mark), (71727, 71735, .mark),
    (71737, 71738, .mark), (71995, 71996, .mark), (71998, 71998, .mark), (72003, 72003, .mark),
    (72148, 72151, .mark), (72154, 72155, .mark), (72160, 72160, .mark), (72193, 72198, .mark),
    (72201, 72202, .mark), (72243, 72248, .mark), (72251, 72254, .mark), (72263, 72263, .mark),
    (72273, 72278, .mark), (72281, 72283, .mark), (72330, 72342, .mark), (72344, 72345, .mark),
    (72544, 72551, .unknown), (72640, 72672, .unknown), (72688, 72697, .unknown),
    (72752, 72758, .mark), (72760, 72765, .mark), (72850, 72871, .mark), (72874, 72880, .mark),
    (72882, 72883, .mark), (72885, 72886, .mark), (73009, 73014, .mark), (73018, 73018, .mark),
    (73020, 73021, .mark), (73023, 73029, .mark), (73031, 73031, .mark), (73104, 73105, .mark),
    (73109, 73109, .mark), (73111, 73111, .mark), (73136, 73179, .unknown),
    (73184, 73193, .unknown), (73459, 73460, .mark), (73472, 73488, .unknown),
    (73490, 73530, .unknown), (73534, 73538, .unknown), (73552, 73562, .unknown),
    (78895, 78895, .unknown), (78912, 78933, .unknown), (78944, 82938, .unknown),
    (90368, 90425, .unknown), (92912, 92916, .mark), (92976, 92982, .mark),
    (93504, 93548, .unknown), (93552, 93561, .unknown), (93883, 93907, .unknown),
    (94031, 94031, .mark), (94095, 94098, .mark), (94180, 94180, .mark), (94194, 94195, .unknown),
    (100344, 100351, .unknown), (101631, 101631, .unknown), (101641, 101662, .unknown),
    (101760, 101874, .unknown), (110898, 110898, .unknown), (110933, 110933, .unknown),
    (113821, 113822, .mark), (118528, 118573, .mark), (118576, 118598, .mark),
    (121344, 121398, .mark), (121403, 121452, .mark), (121461, 121461, .mark),
    (121476, 121476, .mark), (121499, 121503, .mark), (121505, 121519, .mark),
    (122661, 122666, .unknown), (122880, 122886, .mark), (122888, 122904, .mark),
    (122907, 122913, .mark), (122915, 122916, .mark), (122918, 122922, .mark),
    (123023, 123023, .unknown), (123184, 123190, .mark), (123566, 123566, .mark),
    (123628, 123631, .mark), (124112, 124153, .unknown), (124368, 124410, .unknown),
    (124608, 124638, .unknown), (124640, 124661, .unknown), (124670, 124671, .unknown),
    (124928, 125124, .right), (125136, 125142, .mark), (125218, 125251, .right),
    (125252, 125258, .mark), (125259, 125259, .right), (125264, 125273, .right),
    (177977, 177983, .unknown), (183970, 183981, .unknown), (191472, 192093, .unknown),
    (201552, 210041, .unknown)]

/-- The direction of a character. -/
def direction (c : Char) : Direction :=
  match directions.find? fun r => r.1 ≤ c.toNat && c.toNat ≤ r.2.1 with
  | some (_, _, d) => d
  | none => .left

/-- The neighbours that a letter joins. -/
inductive Joining where
  | both
  | left
  | right
  /-- Letters on its two sides join across it. -/
  | through
  | none
  deriving DecidableEq

/-- Ranges of characters that join. -/
def joinings : List (Nat × Nat × Joining) := [
    (768, 831, .through), (834, 834, .through), (838, 846, .through), (848, 879, .through),
    (1155, 1159, .through), (1425, 1469, .through), (1471, 1471, .through), (1473, 1474, .through),
    (1476, 1477, .through), (1479, 1479, .through), (1552, 1562, .through), (1568, 1568, .both),
    (1570, 1573, .right), (1574, 1574, .both), (1575, 1575, .right), (1576, 1576, .both),
    (1577, 1577, .right), (1578, 1582, .both), (1583, 1586, .right), (1587, 1599, .both),
    (1601, 1607, .both), (1608, 1608, .right), (1609, 1610, .both), (1611, 1631, .through),
    (1646, 1647, .both), (1648, 1648, .through), (1649, 1651, .right), (1657, 1671, .both),
    (1672, 1689, .right), (1690, 1727, .both), (1728, 1728, .right), (1729, 1730, .both),
    (1731, 1739, .right), (1740, 1740, .both), (1741, 1741, .right), (1742, 1742, .both),
    (1743, 1743, .right), (1744, 1745, .both), (1746, 1747, .right), (1749, 1749, .right),
    (1750, 1756, .through), (1759, 1764, .through), (1767, 1768, .through), (1770, 1773, .through),
    (1774, 1775, .right), (1786, 1788, .both), (1791, 1791, .both), (1808, 1808, .right),
    (1809, 1809, .through), (1810, 1812, .both), (1813, 1817, .right), (1818, 1821, .both),
    (1822, 1822, .right), (1823, 1831, .both), (1832, 1832, .right), (1833, 1833, .both),
    (1834, 1834, .right), (1835, 1835, .both), (1836, 1836, .right), (1837, 1838, .both),
    (1839, 1839, .right), (1840, 1866, .through), (1869, 1869, .right), (1870, 1880, .both),
    (1881, 1883, .right), (1884, 1898, .both), (1899, 1900, .right), (1901, 1904, .both),
    (1905, 1905, .right), (1906, 1906, .both), (1907, 1908, .right), (1909, 1911, .both),
    (1912, 1913, .right), (1914, 1919, .both), (1958, 1968, .through), (1994, 2026, .both),
    (2027, 2035, .through), (2045, 2045, .through), (2070, 2073, .through), (2075, 2083, .through),
    (2085, 2087, .through), (2089, 2093, .through), (2112, 2112, .right), (2113, 2117, .both),
    (2118, 2119, .right), (2120, 2120, .both), (2121, 2121, .right), (2122, 2131, .both),
    (2132, 2132, .right), (2133, 2133, .both), (2134, 2136, .right), (2137, 2139, .through),
    (2144, 2144, .both), (2146, 2149, .both), (2151, 2151, .right), (2152, 2152, .both),
    (2153, 2154, .right), (2160, 2178, .right), (2182, 2182, .both), (2185, 2189, .both),
    (2190, 2190, .right), (2191, 2191, .both), (2199, 2207, .through), (2208, 2217, .both),
    (2218, 2220, .right), (2222, 2222, .right), (2223, 2224, .both), (2225, 2226, .right),
    (2227, 2232, .both), (2233, 2233, .right), (2234, 2248, .both), (2250, 2273, .through),
    (2275, 2306, .through), (2362, 2362, .through), (2364, 2364, .through), (2369, 2376, .through),
    (2381, 2381, .through), (2385, 2391, .through), (2402, 2403, .through), (2433, 2433, .through),
    (2492, 2492, .through), (2497, 2500, .through), (2509, 2509, .through), (2530, 2531, .through),
    (2558, 2558, .through), (2561, 2562, .through), (2620, 2620, .through), (2625, 2626, .through),
    (2631, 2632, .through), (2635, 2637, .through), (2641, 2641, .through), (2672, 2673, .through),
    (2677, 2677, .through), (2689, 2690, .through), (2748, 2748, .through), (2753, 2757, .through),
    (2759, 2760, .through), (2765, 2765, .through), (2786, 2787, .through), (2810, 2815, .through),
    (2817, 2817, .through), (2876, 2876, .through), (2879, 2879, .through), (2881, 2884, .through),
    (2893, 2893, .through), (2901, 2902, .through), (2914, 2915, .through), (2946, 2946, .through),
    (3008, 3008, .through), (3021, 3021, .through), (3072, 3072, .through), (3076, 3076, .through),
    (3132, 3132, .through), (3134, 3136, .through), (3142, 3144, .through), (3146, 3149, .through),
    (3157, 3158, .through), (3170, 3171, .through), (3201, 3201, .through), (3260, 3260, .through),
    (3263, 3263, .through), (3270, 3270, .through), (3276, 3277, .through), (3298, 3299, .through),
    (3328, 3329, .through), (3387, 3388, .through), (3393, 3396, .through), (3405, 3405, .through),
    (3426, 3427, .through), (3457, 3457, .through), (3530, 3530, .through), (3538, 3540, .through),
    (3542, 3542, .through), (3633, 3633, .through), (3636, 3642, .through), (3655, 3662, .through),
    (3761, 3761, .through), (3764, 3772, .through), (3784, 3790, .through), (3864, 3865, .through),
    (3893, 3893, .through), (3895, 3895, .through), (3897, 3897, .through), (3953, 3954, .through),
    (3956, 3956, .through), (3962, 3966, .through), (3968, 3968, .through), (3970, 3972, .through),
    (3974, 3975, .through), (3981, 3986, .through), (3988, 3991, .through), (3993, 3996, .through),
    (3998, 4001, .through), (4003, 4006, .through), (4008, 4011, .through), (4013, 4024, .through),
    (4026, 4028, .through), (4038, 4038, .through), (4141, 4144, .through), (4146, 4151, .through),
    (4153, 4154, .through), (4157, 4158, .through), (4184, 4185, .through), (4190, 4192, .through),
    (4209, 4212, .through), (4226, 4226, .through), (4229, 4230, .through), (4237, 4237, .through),
    (4253, 4253, .through), (4957, 4959, .through), (5906, 5908, .through), (5938, 5939, .through),
    (5970, 5971, .through), (6002, 6003, .through), (6071, 6077, .through), (6086, 6086, .through),
    (6089, 6099, .through), (6109, 6109, .through), (6176, 6264, .both), (6277, 6278, .through),
    (6279, 6312, .both), (6313, 6313, .through), (6314, 6314, .both), (6432, 6434, .through),
    (6439, 6440, .through), (6450, 6450, .through), (6457, 6459, .through), (6679, 6680, .through),
    (6683, 6683, .through), (6742, 6742, .through), (6744, 6750, .through), (6752, 6752, .through),
    (6754, 6754, .through), (6757, 6764, .through), (6771, 6780, .through), (6783, 6783, .through),
    (6832, 6845, .through), (6847, 6877, .through), (6880, 6891, .through), (6912, 6915, .through),
    (6964, 6964, .through), (6966, 6970, .through), (6972, 6972, .through), (6978, 6978, .through),
    (7019, 7027, .through), (7040, 7041, .through), (7074, 7077, .through), (7080, 7081, .through),
    (7083, 7085, .through), (7142, 7142, .through), (7144, 7145, .through), (7149, 7149, .through),
    (7151, 7153, .through), (7212, 7219, .through), (7222, 7223, .through), (7376, 7378, .through),
    (7380, 7392, .through), (7394, 7400, .through), (7405, 7405, .through), (7412, 7412, .through),
    (7416, 7417, .through), (7616, 7679, .through), (11503, 11505, .through),
    (11647, 11647, .through), (11744, 11775, .through), (12330, 12333, .through),
    (12441, 12442, .through), (42607, 42607, .through), (42612, 42621, .through),
    (42654, 42655, .through), (42736, 42737, .through), (43010, 43010, .through),
    (43014, 43014, .through), (43019, 43019, .through), (43045, 43046, .through),
    (43052, 43052, .through), (43072, 43121, .both), (43122, 43122, .left),
    (43204, 43205, .through), (43232, 43249, .through), (43263, 43263, .through),
    (43302, 43309, .through), (43335, 43345, .through), (43392, 43394, .through),
    (43443, 43443, .through), (43446, 43449, .through), (43452, 43453, .through),
    (43493, 43493, .through), (43561, 43566, .through), (43569, 43570, .through),
    (43573, 43574, .through), (43587, 43587, .through), (43596, 43596, .through),
    (43644, 43644, .through), (43696, 43696, .through), (43698, 43700, .through),
    (43703, 43704, .through), (43710, 43711, .through), (43713, 43713, .through),
    (43756, 43757, .through), (43766, 43766, .through), (44005, 44005, .through),
    (44008, 44008, .through), (44013, 44013, .through), (64286, 64286, .through),
    (65056, 65071, .through), (66045, 66045, .through), (66272, 66272, .through),
    (66422, 66426, .through), (68097, 68099, .through), (68101, 68102, .through),
    (68108, 68111, .through), (68152, 68154, .through), (68159, 68159, .through),
    (68288, 68292, .both), (68293, 68293, .right), (68295, 68295, .right), (68297, 68298, .right),
    (68301, 68301, .left), (68302, 68306, .right), (68307, 68310, .both), (68311, 68311, .left),
    (68312, 68316, .both), (68317, 68317, .right), (68318, 68320, .both), (68321, 68321, .right),
    (68324, 68324, .right), (68325, 68326, .through), (68480, 68480, .both), (68481, 68481, .right),
    (68482, 68482, .both), (68483, 68485, .right), (68486, 68488, .both), (68489, 68489, .right),
    (68490, 68491, .both), (68492, 68492, .right), (68493, 68493, .both), (68494, 68495, .right),
    (68496, 68496, .both), (68497, 68497, .right), (68864, 68864, .left), (68865, 68897, .both),
    (68898, 68898, .right), (68899, 68899, .both), (68900, 68903, .through),
    (68969, 68973, .through), (69291, 69292, .through), (69314, 69314, .right),
    (69315, 69316, .both), (69318, 69319, .both), (69370, 69375, .through), (69424, 69426, .both),
    (69427, 69427, .right), (69428, 69444, .both), (69446, 69456, .through), (69488, 69491, .both),
    (69492, 69493, .right), (69494, 69505, .both), (69506, 69509, .through), (69552, 69552, .both),
    (69554, 69555, .both), (69556, 69558, .right), (69560, 69560, .both), (69561, 69562, .right),
    (69563, 69564, .both), (69565, 69565, .right), (69566, 69567, .both), (69569, 69569, .both),
    (69570, 69571, .right), (69572, 69572, .both), (69633, 69633, .through),
    (69688, 69702, .through), (69744, 69744, .through), (69747, 69748, .through),
    (69759, 69761, .through), (69811, 69814, .through), (69817, 69818, .through),
    (69826, 69826, .through), (69888, 69890, .through), (69927, 69931, .through),
    (69933, 69940, .through), (70003, 70003, .through), (70016, 70017, .through),
    (70070, 70078, .through), (70089, 70092, .through), (70095, 70095, .through),
    (70191, 70193, .through), (70196, 70196, .through), (70198, 70199, .through),
    (70206, 70206, .through), (70209, 70209, .through), (70367, 70367, .through),
    (70371, 70378, .through), (70400, 70401, .through), (70459, 70460, .through),
    (70464, 70464, .through), (70502, 70508, .through), (70512, 70516, .through),
    (70587, 70592, .through), (70606, 70606, .through), (70608, 70608, .through),
    (70610, 70610, .through), (70625, 70626, .through), (70712, 70719, .through),
    (70722, 70724, .through), (70726, 70726, .through), (70750, 70750, .through),
    (70835, 70840, .through), (70842, 70842, .through), (70847, 70848, .through),
    (70850, 70851, .through), (71090, 71093, .through), (71100, 71101, .through),
    (71103, 71104, .through), (71132, 71133, .through), (71219, 71226, .through),
    (71229, 71229, .through), (71231, 71232, .through), (71339, 71339, .through),
    (71341, 71341, .through), (71344, 71349, .through), (71351, 71351, .through),
    (71453, 71453, .through), (71455, 71455, .through), (71458, 71461, .through),
    (71463, 71467, .through), (71727, 71735, .through), (71737, 71738, .through),
    (71995, 71996, .through), (71998, 71998, .through), (72003, 72003, .through),
    (72148, 72151, .through), (72154, 72155, .through), (72160, 72160, .through),
    (72193, 72202, .through), (72243, 72248, .through), (72251, 72254, .through),
    (72263, 72263, .through), (72273, 72278, .through), (72281, 72283, .through),
    (72330, 72342, .through), (72344, 72345, .through), (72544, 72544, .through),
    (72546, 72548, .through), (72550, 72550, .through), (72752, 72758, .through),
    (72760, 72765, .through), (72767, 72767, .through), (72850, 72871, .through),
    (72874, 72880, .through), (72882, 72883, .through), (72885, 72886, .through),
    (73009, 73014, .through), (73018, 73018, .through), (73020, 73021, .through),
    (73023, 73029, .through), (73031, 73031, .through), (73104, 73105, .through),
    (73109, 73109, .through), (73111, 73111, .through), (73459, 73460, .through),
    (73472, 73473, .through), (73526, 73530, .through), (73536, 73536, .through),
    (73538, 73538, .through), (73562, 73562, .through), (78912, 78912, .through),
    (78919, 78933, .through), (90398, 90409, .through), (90413, 90415, .through),
    (92912, 92916, .through), (92976, 92982, .through), (94031, 94031, .through),
    (94095, 94098, .through), (94180, 94180, .through), (113821, 113822, .through),
    (118528, 118573, .through), (118576, 118598, .through), (121344, 121398, .through),
    (121403, 121452, .through), (121461, 121461, .through), (121476, 121476, .through),
    (121499, 121503, .through), (121505, 121519, .through), (122880, 122886, .through),
    (122888, 122904, .through), (122907, 122913, .through), (122915, 122916, .through),
    (122918, 122922, .through), (123023, 123023, .through), (123184, 123190, .through),
    (123566, 123566, .through), (123628, 123631, .through), (124140, 124143, .through),
    (124398, 124399, .through), (124643, 124643, .through), (124646, 124646, .through),
    (124654, 124655, .through), (124661, 124661, .through), (125136, 125142, .through),
    (125218, 125251, .both), (125252, 125259, .through)]

/-- The neighbours that a character joins. -/
def joining (c : Char) : Joining :=
  match joinings.find? fun r => r.1 ≤ c.toNat && c.toNat ≤ r.2.1 with
  | some (_, _, j) => j
  | Option.none => .none

end Compliance.Text
