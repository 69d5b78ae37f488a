import Clausewise.Text.Edges
/-!
The scripts of the character database that expressions may name.
-/

namespace Clausewise.Script

def latin : Edges := ⟨#[
  65, 91, 97, 123, 170, 171, 186, 187, 192, 215, 216, 247, 248, 697, 736, 741, 7424, 7462, 7468, 7517,
  7522, 7526, 7531, 7544, 7545, 7615, 7680, 7936, 8305, 8306, 8319, 8320, 8336, 8349, 8490, 8492, 8498,
  8499, 8526, 8527, 8544, 8585, 11360, 11392, 42786, 42888, 42891, 42955, 42960, 42962, 42963, 42964,
  42965, 42970, 42994, 43008, 43824, 43867, 43868, 43877, 43878, 43882, 64256, 64263, 65313, 65339, 65345,
  65371, 67456, 67462, 67463, 67505, 67506, 67515, 122624, 122655, 122661, 122667]⟩

def greek : Edges := ⟨#[
  880, 884, 885, 888, 890, 894, 895, 896, 900, 901, 902, 903, 904, 907, 908, 909, 910, 930, 931, 994, 1008,
  1024, 7462, 7467, 7517, 7522, 7526, 7531, 7615, 7616, 7936, 7958, 7960, 7966, 7968, 8006, 8008, 8014,
  8016, 8024, 8025, 8026, 8027, 8028, 8029, 8030, 8031, 8062, 8064, 8117, 8118, 8133, 8134, 8148, 8150,
  8156, 8157, 8176, 8178, 8181, 8182, 8191, 8486, 8487, 43877, 43878, 65856, 65935, 65952, 65953, 119296,
  119366]⟩

def cyrillic : Edges := ⟨#[
  1024, 1157, 1159, 1328, 7296, 7305, 7467, 7468, 7544, 7545, 11744, 11776, 42560, 42656, 65070, 65072,
  122928, 122990, 123023, 123024]⟩

def han : Edges := ⟨#[
  11904, 11930, 11931, 12020, 12032, 12246, 12293, 12294, 12295, 12296, 12321, 12330, 12344, 12348, 13312,
  19904, 19968, 40960, 63744, 64110, 64112, 64218, 94178, 94180, 94192, 94194, 131072, 173792, 173824,
  177978, 177984, 178206, 178208, 183970, 183984, 191457, 194560, 195102, 196608, 201547, 201552, 205744]⟩

def hiragana : Edges := ⟨#[
  12353, 12439, 12445, 12448, 110593, 110880, 110898, 110899, 110928, 110931, 127488, 127489]⟩

def katakana : Edges := ⟨#[
  12449, 12539, 12541, 12544, 12784, 12800, 13008, 13055, 13056, 13144, 65382, 65392, 65393, 65438, 110576,
  110580, 110581, 110588, 110589, 110591, 110592, 110593, 110880, 110883, 110933, 110934, 110948, 110952]⟩

def arabic : Edges := ⟨#[
  1536, 1541, 1542, 1548, 1549, 1563, 1564, 1567, 1568, 1600, 1601, 1611, 1622, 1648, 1649, 1757, 1758,
  1792, 1872, 1920, 2160, 2191, 2192, 2194, 2200, 2274, 2275, 2304, 64336, 64451, 64467, 64830, 64832,
  64912, 64914, 64968, 64975, 64976, 65008, 65024, 65136, 65141, 65142, 65277, 69216, 69247, 69373, 69376,
  126464, 126468, 126469, 126496, 126497, 126499, 126500, 126501, 126503, 126504, 126505, 126515, 126516,
  126520, 126521, 126522, 126523, 126524, 126530, 126531, 126535, 126536, 126537, 126538, 126539, 126540,
  126541, 126544, 126545, 126547, 126548, 126549, 126551, 126552, 126553, 126554, 126555, 126556, 126557,
  126558, 126559, 126560, 126561, 126563, 126564, 126565, 126567, 126571, 126572, 126579, 126580, 126584,
  126585, 126589, 126590, 126591, 126592, 126602, 126603, 126620, 126625, 126628, 126629, 126634, 126635,
  126652, 126704, 126706]⟩

def hebrew : Edges := ⟨#[
  1425, 1480, 1488, 1515, 1519, 1525, 64285, 64311, 64312, 64317, 64318, 64319, 64320, 64322, 64323, 64325,
  64326, 64336]⟩

def hangul : Edges := ⟨#[
  4352, 4608, 12334, 12336, 12593, 12687, 12800, 12831, 12896, 12927, 43360, 43389, 44032, 55204, 55216,
  55239, 55243, 55292, 65440, 65471, 65474, 65480, 65482, 65488, 65490, 65496, 65498, 65501]⟩

def thai : Edges := ⟨#[
  3585, 3643, 3648, 3676]⟩

def devanagari : Edges := ⟨#[
  2304, 2385, 2389, 2404, 2406, 2432, 43232, 43264, 72448, 72458]⟩

def armenian : Edges := ⟨#[
  1329, 1367, 1369, 1419, 1421, 1424, 64275, 64280]⟩

def georgian : Edges := ⟨#[
  4256, 4294, 4295, 4296, 4301, 4302, 4304, 4347, 4348, 4352, 7312, 7355, 7357, 7360, 11520, 11558, 11559,
  11560, 11565, 11566]⟩

/-- Characters of no single script. -/
def common : Edges := ⟨#[
  0, 65, 91, 97, 123, 170, 171, 186, 187, 192, 215, 216, 247, 248, 697, 736, 741, 746, 748, 768, 884, 885,
  894, 895, 901, 902, 903, 904, 1541, 1542, 1548, 1549, 1563, 1564, 1567, 1568, 1600, 1601, 1757, 1758,
  2274, 2275, 2404, 2406, 3647, 3648, 4053, 4057, 4347, 4348, 5867, 5870, 5941, 5943, 6146, 6148, 6149,
  6150, 7379, 7380, 7393, 7394, 7401, 7405, 7406, 7412, 7413, 7416, 7418, 7419, 8192, 8204, 8206, 8293,
  8294, 8305, 8308, 8319, 8320, 8335, 8352, 8385, 8448, 8486, 8487, 8490, 8492, 8498, 8499, 8526, 8527,
  8544, 8585, 8588, 8592, 9255, 9280, 9291, 9312, 10240, 10496, 11124, 11126, 11158, 11159, 11264, 11776,
  11870, 12272, 12284, 12288, 12293, 12294, 12295, 12296, 12321, 12336, 12344, 12348, 12352, 12443, 12445,
  12448, 12449, 12539, 12541, 12688, 12704, 12736, 12772, 12832, 12896, 12927, 13008, 13055, 13056, 13144,
  13312, 19904, 19968, 42752, 42786, 42888, 42891, 43056, 43066, 43310, 43311, 43471, 43472, 43867, 43868,
  43882, 43884, 64830, 64832, 65040, 65050, 65072, 65107, 65108, 65127, 65128, 65132, 65279, 65280, 65281,
  65313, 65339, 65345, 65371, 65382, 65392, 65393, 65438, 65440, 65504, 65511, 65512, 65519, 65529, 65534,
  65792, 65795, 65799, 65844, 65847, 65856, 65936, 65949, 66000, 66045, 66273, 66300, 113824, 113828,
  118608, 118724, 118784, 119030, 119040, 119079, 119081, 119143, 119146, 119163, 119171, 119173, 119180,
  119210, 119214, 119275, 119488, 119508, 119520, 119540, 119552, 119639, 119648, 119673, 119808, 119893,
  119894, 119965, 119966, 119968, 119970, 119971, 119973, 119975, 119977, 119981, 119982, 119994, 119995,
  119996, 119997, 120004, 120005, 120070, 120071, 120075, 120077, 120085, 120086, 120093, 120094, 120122,
  120123, 120127, 120128, 120133, 120134, 120135, 120138, 120145, 120146, 120486, 120488, 120780, 120782,
  120832, 126065, 126133, 126209, 126270, 126976, 127020, 127024, 127124, 127136, 127151, 127153, 127168,
  127169, 127184, 127185, 127222, 127232, 127406, 127462, 127488, 127489, 127491, 127504, 127548, 127552,
  127561, 127568, 127570, 127584, 127590, 127744, 128728, 128732, 128749, 128752, 128765, 128768, 128887,
  128891, 128986, 128992, 129004, 129008, 129009, 129024, 129036, 129040, 129096, 129104, 129114, 129120,
  129160, 129168, 129198, 129200, 129202, 129280, 129620, 129632, 129646, 129648, 129661, 129664, 129673,
  129680, 129726, 129727, 129734, 129742, 129756, 129760, 129769, 129776, 129785, 129792, 129939, 129940,
  129995, 130032, 130042, 917505, 917506, 917536, 917632]⟩

/-- The scripts, by their lower-case names. -/
def tables : List (String × Edges) := [
  ("latin", latin), ("greek", greek), ("cyrillic", cyrillic), ("han", han), ("hiragana", hiragana),
  ("katakana", katakana), ("arabic", arabic), ("hebrew", hebrew), ("hangul", hangul), ("thai", thai),
  ("devanagari", devanagari), ("armenian", armenian), ("georgian", georgian), ("common", common)]

/-- Whether a code point is in the script of a lower-case name; none if there is no such script. -/
def contains? (name : String) (c : Nat) : Option Bool :=
  (tables.find? fun t => t.1 = name).map fun t => t.2.contains c

end Clausewise.Script
