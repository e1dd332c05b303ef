import DfaTable.Text

/-!
# DfaTable.Text.Normal.Decomposition

What the characters of a text are made of, by the character database in its version 3.2: accented
letters of a letter and its accents, and forms that are there for compatibility of the characters
that they are forms of.
-/

namespace DfaTable.Text.Normal

/-- Runs of consecutive characters by the number of the first one, each with what its characters
are made of, with tabs in between. -/
def decompositions : List (Nat × String) :=
  [(0xA0, " "), (0xA8, " \u0308"), (0xAA, "a"), (0xAF, " \u0304"), (0xB2, "2\t3\t \u0301\tμ"),
   (0xB8, " \u0327\t1\to"), (0xBC, "1⁄4\t1⁄2\t3⁄4"),
   (0xC0, "A\u0300\tA\u0301\tA\u0302\tA\u0303\tA\u0308\tA\u030a"),
   (0xC7, "C\u0327\tE\u0300\tE\u0301\tE\u0302\tE\u0308\tI\u0300\tI\u0301\tI\u0302"),
   (0xCF, "I\u0308"), (0xD1, "N\u0303\tO\u0300\tO\u0301\tO\u0302\tO\u0303\tO\u0308"),
   (0xD9, "U\u0300\tU\u0301\tU\u0302\tU\u0308\tY\u0301"),
   (0xE0, "a\u0300\ta\u0301\ta\u0302\ta\u0303\ta\u0308\ta\u030a"),
   (0xE7, "c\u0327\te\u0300\te\u0301\te\u0302\te\u0308\ti\u0300\ti\u0301\ti\u0302"),
   (0xEF, "i\u0308"), (0xF1, "n\u0303\to\u0300\to\u0301\to\u0302\to\u0303\to\u0308"),
   (0xF9, "u\u0300\tu\u0301\tu\u0302\tu\u0308\ty\u0301"),
   (0xFF, "y\u0308\tA\u0304\ta\u0304\tA\u0306\ta\u0306\tA\u0328\ta\u0328\tC\u0301"),
   (0x107, "c\u0301\tC\u0302\tc\u0302\tC\u0307\tc\u0307\tC\u030c\tc\u030c\tD\u030c"),
   (0x10F, "d\u030c"),
   (0x112, "E\u0304\te\u0304\tE\u0306\te\u0306\tE\u0307\te\u0307\tE\u0328\te\u0328"),
   (0x11A, "E\u030c\te\u030c\tG\u0302\tg\u0302\tG\u0306\tg\u0306\tG\u0307\tg\u0307"),
   (0x122, "G\u0327\tg\u0327\tH\u0302\th\u0302"),
   (0x128, "I\u0303\ti\u0303\tI\u0304\ti\u0304\tI\u0306\ti\u0306\tI\u0328\ti\u0328"),
   (0x130, "I\u0307"), (0x132, "IJ\tij\tJ\u0302\tj\u0302\tK\u0327\tk\u0327"),
   (0x139, "L\u0301\tl\u0301\tL\u0327\tl\u0327\tL\u030c\tl\u030c\tL·\tl·"),
   (0x143, "N\u0301\tn\u0301\tN\u0327\tn\u0327\tN\u030c\tn\u030c\tʼn"),
   (0x14C, "O\u0304\to\u0304\tO\u0306\to\u0306\tO\u030b\to\u030b"),
   (0x154, "R\u0301\tr\u0301\tR\u0327\tr\u0327\tR\u030c\tr\u030c\tS\u0301\ts\u0301"),
   (0x15C, "S\u0302\ts\u0302\tS\u0327\ts\u0327\tS\u030c\ts\u030c\tT\u0327\tt\u0327"),
   (0x164, "T\u030c\tt\u030c"),
   (0x168, "U\u0303\tu\u0303\tU\u0304\tu\u0304\tU\u0306\tu\u0306\tU\u030a\tu\u030a"),
   (0x170, "U\u030b\tu\u030b\tU\u0328\tu\u0328\tW\u0302\tw\u0302\tY\u0302\ty\u0302"),
   (0x178, "Y\u0308\tZ\u0301\tz\u0301\tZ\u0307\tz\u0307\tZ\u030c\tz\u030c\ts"),
   (0x1A0, "O\u031b\to\u031b"), (0x1AF, "U\u031b\tu\u031b"),
   (0x1C4, "DZ\u030c\tDz\u030c\tdz\u030c\tLJ\tLj\tlj\tNJ\tNj\tnj\tA\u030c\ta\u030c"),
   (0x1CF, "I\u030c\ti\u030c\tO\u030c\to\u030c\tU\u030c\tu\u030c\tU\u0308\u0304"),
   (0x1D6, "u\u0308\u0304\tU\u0308\u0301\tu\u0308\u0301\tU\u0308\u030c\tu\u0308\u030c"),
   (0x1DB, "U\u0308\u0300\tu\u0308\u0300"),
   (0x1DE, "A\u0308\u0304\ta\u0308\u0304\tA\u0307\u0304\ta\u0307\u0304\tÆ\u0304\tæ\u0304"),
   (0x1E6, "G\u030c\tg\u030c\tK\u030c\tk\u030c\tO\u0328\to\u0328\tO\u0328\u0304"),
   (0x1ED, "o\u0328\u0304\tƷ\u030c\tʒ\u030c\tj\u030c\tDZ\tDz\tdz\tG\u0301\tg\u0301"),
   (0x1F8, "N\u0300\tn\u0300\tA\u030a\u0301\ta\u030a\u0301\tÆ\u0301\tæ\u0301\tØ\u0301"),
   (0x1FF, "ø\u0301\tA\u030f\ta\u030f\tA\u0311\ta\u0311\tE\u030f\te\u030f\tE\u0311"),
   (0x207, "e\u0311\tI\u030f\ti\u030f\tI\u0311\ti\u0311\tO\u030f\to\u030f\tO\u0311"),
   (0x20F, "o\u0311\tR\u030f\tr\u030f\tR\u0311\tr\u0311\tU\u030f\tu\u030f\tU\u0311"),
   (0x217, "u\u0311\tS\u0326\ts\u0326\tT\u0326\tt\u0326"), (0x21E, "H\u030c\th\u030c"),
   (0x226, "A\u0307\ta\u0307\tE\u0327\te\u0327\tO\u0308\u0304\to\u0308\u0304"),
   (0x22C, "O\u0303\u0304\to\u0303\u0304\tO\u0307\to\u0307\tO\u0307\u0304\to\u0307\u0304"),
   (0x232, "Y\u0304\ty\u0304"), (0x2B0, "h\tɦ\tj\tr\tɹ\tɻ\tʁ\tw\ty"),
   (0x2D8, " \u0306\t \u0307\t \u030a\t \u0328\t \u0303\t \u030b"), (0x2E0, "ɣ\tl\ts\tx\tʕ"),
   (0x340, "\u0300\t\u0301"), (0x343, "\u0313\t\u0308\u0301"), (0x374, "ʹ"), (0x37A, " \u0345"),
   (0x37E, ";"), (0x384, " \u0301\t \u0308\u0301\tΑ\u0301\t·\tΕ\u0301\tΗ\u0301\tΙ\u0301"),
   (0x38C, "Ο\u0301"), (0x38E, "Υ\u0301\tΩ\u0301\tι\u0308\u0301"),
   (0x3AA, "Ι\u0308\tΥ\u0308\tα\u0301\tε\u0301\tη\u0301\tι\u0301\tυ\u0308\u0301"),
   (0x3CA, "ι\u0308\tυ\u0308\tο\u0301\tυ\u0301\tω\u0301"),
   (0x3D0, "β\tθ\tΥ\tΥ\u0301\tΥ\u0308\tφ\tπ"), (0x3F0, "κ\tρ\tς"), (0x3F4, "Θ\tε"),
   (0x400, "Е\u0300\tЕ\u0308"), (0x403, "Г\u0301"), (0x407, "І\u0308"),
   (0x40C, "К\u0301\tИ\u0300\tУ\u0306"), (0x419, "И\u0306"), (0x439, "и\u0306"),
   (0x450, "е\u0300\tе\u0308"), (0x453, "г\u0301"), (0x457, "і\u0308"),
   (0x45C, "к\u0301\tи\u0300\tу\u0306"), (0x476, "Ѵ\u030f\tѵ\u030f"), (0x4C1, "Ж\u0306\tж\u0306"),
   (0x4D0, "А\u0306\tа\u0306\tА\u0308\tа\u0308"), (0x4D6, "Е\u0306\tе\u0306"),
   (0x4DA, "Ә\u0308\tә\u0308\tЖ\u0308\tж\u0308\tЗ\u0308\tз\u0308"),
   (0x4E2, "И\u0304\tи\u0304\tИ\u0308\tи\u0308\tО\u0308\tо\u0308"),
   (0x4EA, "Ө\u0308\tө\u0308\tЭ\u0308\tэ\u0308\tУ\u0304\tу\u0304\tУ\u0308\tу\u0308"),
   (0x4F2, "У\u030b\tу\u030b\tЧ\u0308\tч\u0308"), (0x4F8, "Ы\u0308\tы\u0308"), (0x587, "եւ"),
   (0x622, "\u0627\u0653\t\u0627\u0654\t\u0648\u0654\t\u0627\u0655\t\u064a\u0654"),
   (0x675, "\u0627\u0674\t\u0648\u0674\t\u06c7\u0674\t\u064a\u0674"), (0x6C0, "\u06d5\u0654"),
   (0x6C2, "\u06c1\u0654"), (0x6D3, "\u06d2\u0654"), (0x929, "न\u093c"), (0x931, "र\u093c"),
   (0x934, "ळ\u093c"),
   (0x958, "क\u093c\tख\u093c\tग\u093c\tज\u093c\tड\u093c\tढ\u093c\tफ\u093c\tय\u093c"),
   (0x9CB, "\u09c7\u09be\t\u09c7\u09d7"), (0x9DC, "ড\u09bc\tঢ\u09bc"), (0x9DF, "য\u09bc"),
   (0xA33, "ਲ\u0a3c"), (0xA36, "ਸ\u0a3c"), (0xA59, "ਖ\u0a3c\tਗ\u0a3c\tਜ\u0a3c"),
   (0xA5E, "ਫ\u0a3c"), (0xB48, "\u0b47\u0b56"), (0xB4B, "\u0b47\u0b3e\t\u0b47\u0b57"),
   (0xB5C, "ଡ\u0b3c\tଢ\u0b3c"), (0xB94, "ஒ\u0bd7"),
   (0xBCA, "\u0bc6\u0bbe\t\u0bc7\u0bbe\t\u0bc6\u0bd7"), (0xC48, "\u0c46\u0c56"),
   (0xCC0, "\u0cbf\u0cd5"), (0xCC7, "\u0cc6\u0cd5\t\u0cc6\u0cd6"),
   (0xCCA, "\u0cc6\u0cc2\t\u0cc6\u0cc2\u0cd5"),
   (0xD4A, "\u0d46\u0d3e\t\u0d47\u0d3e\t\u0d46\u0d57"), (0xDDA, "\u0dd9\u0dca"),
   (0xDDC, "\u0dd9\u0dcf\t\u0dd9\u0dcf\u0dca\t\u0dd9\u0ddf"), (0xE33, "\u0e4dา"),
   (0xEB3, "\u0ecdາ"), (0xEDC, "ຫນ\tຫມ"), (0xF0C, "་"), (0xF43, "ག\u0fb7"), (0xF4D, "ཌ\u0fb7"),
   (0xF52, "ད\u0fb7"), (0xF57, "བ\u0fb7"), (0xF5C, "ཛ\u0fb7"), (0xF69, "ཀ\u0fb5"),
   (0xF73, "\u0f71\u0f72"),
   (0xF75, "\u0f71\u0f74\t\u0fb2\u0f80\t\u0fb2\u0f71\u0f80\t\u0fb3\u0f80"),
   (0xF79, "\u0fb3\u0f71\u0f80"), (0xF81, "\u0f71\u0f80"), (0xF93, "\u0f92\u0fb7"),
   (0xF9D, "\u0f9c\u0fb7"), (0xFA2, "\u0fa1\u0fb7"), (0xFA7, "\u0fa6\u0fb7"),
   (0xFAC, "\u0fab\u0fb7"), (0xFB9, "\u0f90\u0fb5"), (0x1026, "ဥ\u102e"),
   (0x1E00, "A\u0325\ta\u0325\tB\u0307\tb\u0307\tB\u0323\tb\u0323\tB\u0331\tb\u0331"),
   (0x1E08, "C\u0327\u0301\tc\u0327\u0301\tD\u0307\td\u0307\tD\u0323\td\u0323\tD\u0331"),
   (0x1E0F, "d\u0331\tD\u0327\td\u0327\tD\u032d\td\u032d\tE\u0304\u0300\te\u0304\u0300"),
   (0x1E16, "E\u0304\u0301\te\u0304\u0301\tE\u032d\te\u032d\tE\u0330\te\u0330"),
   (0x1E1C, "E\u0327\u0306\te\u0327\u0306\tF\u0307\tf\u0307\tG\u0304\tg\u0304\tH\u0307"),
   (0x1E23, "h\u0307\tH\u0323\th\u0323\tH\u0308\th\u0308\tH\u0327\th\u0327\tH\u032e"),
   (0x1E2B, "h\u032e\tI\u0330\ti\u0330\tI\u0308\u0301\ti\u0308\u0301\tK\u0301\tk\u0301"),
   (0x1E32, "K\u0323\tk\u0323\tK\u0331\tk\u0331\tL\u0323\tl\u0323\tL\u0323\u0304"),
   (0x1E39, "l\u0323\u0304\tL\u0331\tl\u0331\tL\u032d\tl\u032d\tM\u0301\tm\u0301\tM\u0307"),
   (0x1E41, "m\u0307\tM\u0323\tm\u0323\tN\u0307\tn\u0307\tN\u0323\tn\u0323\tN\u0331"),
   (0x1E49, "n\u0331\tN\u032d\tn\u032d\tO\u0303\u0301\to\u0303\u0301\tO\u0303\u0308"),
   (0x1E4F, "o\u0303\u0308\tO\u0304\u0300\to\u0304\u0300\tO\u0304\u0301\to\u0304\u0301"),
   (0x1E54, "P\u0301\tp\u0301\tP\u0307\tp\u0307\tR\u0307\tr\u0307\tR\u0323\tr\u0323"),
   (0x1E5C, "R\u0323\u0304\tr\u0323\u0304\tR\u0331\tr\u0331\tS\u0307\ts\u0307\tS\u0323"),
   (0x1E63, "s\u0323\tS\u0301\u0307\ts\u0301\u0307\tS\u030c\u0307\ts\u030c\u0307"),
   (0x1E68, "S\u0323\u0307\ts\u0323\u0307\tT\u0307\tt\u0307\tT\u0323\tt\u0323\tT\u0331"),
   (0x1E6F, "t\u0331\tT\u032d\tt\u032d\tU\u0324\tu\u0324\tU\u0330\tu\u0330\tU\u032d"),
   (0x1E77, "u\u032d\tU\u0303\u0301\tu\u0303\u0301\tU\u0304\u0308\tu\u0304\u0308\tV\u0303"),
   (0x1E7D, "v\u0303\tV\u0323\tv\u0323\tW\u0300\tw\u0300\tW\u0301\tw\u0301\tW\u0308"),
   (0x1E85, "w\u0308\tW\u0307\tw\u0307\tW\u0323\tw\u0323\tX\u0307\tx\u0307\tX\u0308"),
   (0x1E8D, "x\u0308\tY\u0307\ty\u0307\tZ\u0302\tz\u0302\tZ\u0323\tz\u0323\tZ\u0331"),
   (0x1E95, "z\u0331\th\u0331\tt\u0308\tw\u030a\ty\u030a\taʾ\ts\u0307"),
   (0x1EA0, "A\u0323\ta\u0323\tA\u0309\ta\u0309\tA\u0302\u0301\ta\u0302\u0301"),
   (0x1EA6, "A\u0302\u0300\ta\u0302\u0300\tA\u0302\u0309\ta\u0302\u0309\tA\u0302\u0303"),
   (0x1EAB, "a\u0302\u0303\tA\u0323\u0302\ta\u0323\u0302\tA\u0306\u0301\ta\u0306\u0301"),
   (0x1EB0, "A\u0306\u0300\ta\u0306\u0300\tA\u0306\u0309\ta\u0306\u0309\tA\u0306\u0303"),
   (0x1EB5, "a\u0306\u0303\tA\u0323\u0306\ta\u0323\u0306\tE\u0323\te\u0323\tE\u0309"),
   (0x1EBB, "e\u0309\tE\u0303\te\u0303\tE\u0302\u0301\te\u0302\u0301\tE\u0302\u0300"),
   (0x1EC1, "e\u0302\u0300\tE\u0302\u0309\te\u0302\u0309\tE\u0302\u0303\te\u0302\u0303"),
   (0x1EC6, "E\u0323\u0302\te\u0323\u0302\tI\u0309\ti\u0309\tI\u0323\ti\u0323\tO\u0323"),
   (0x1ECD, "o\u0323\tO\u0309\to\u0309\tO\u0302\u0301\to\u0302\u0301\tO\u0302\u0300"),
   (0x1ED3, "o\u0302\u0300\tO\u0302\u0309\to\u0302\u0309\tO\u0302\u0303\to\u0302\u0303"),
   (0x1ED8, "O\u0323\u0302\to\u0323\u0302\tO\u031b\u0301\to\u031b\u0301\tO\u031b\u0300"),
   (0x1EDD, "o\u031b\u0300\tO\u031b\u0309\to\u031b\u0309\tO\u031b\u0303\to\u031b\u0303"),
   (0x1EE2, "O\u031b\u0323\to\u031b\u0323\tU\u0323\tu\u0323\tU\u0309\tu\u0309"),
   (0x1EE8, "U\u031b\u0301\tu\u031b\u0301\tU\u031b\u0300\tu\u031b\u0300\tU\u031b\u0309"),
   (0x1EED, "u\u031b\u0309\tU\u031b\u0303\tu\u031b\u0303\tU\u031b\u0323\tu\u031b\u0323"),
   (0x1EF2, "Y\u0300\ty\u0300\tY\u0323\ty\u0323\tY\u0309\ty\u0309\tY\u0303\ty\u0303"),
   (0x1F00, "α\u0313\tα\u0314\tα\u0313\u0300\tα\u0314\u0300\tα\u0313\u0301\tα\u0314\u0301"),
   (0x1F06, "α\u0313\u0342\tα\u0314\u0342\tΑ\u0313\tΑ\u0314\tΑ\u0313\u0300\tΑ\u0314\u0300"),
   (0x1F0C, "Α\u0313\u0301\tΑ\u0314\u0301\tΑ\u0313\u0342\tΑ\u0314\u0342\tε\u0313\tε\u0314"),
   (0x1F12, "ε\u0313\u0300\tε\u0314\u0300\tε\u0313\u0301\tε\u0314\u0301"),
   (0x1F18, "Ε\u0313\tΕ\u0314\tΕ\u0313\u0300\tΕ\u0314\u0300\tΕ\u0313\u0301\tΕ\u0314\u0301"),
   (0x1F20, "η\u0313\tη\u0314\tη\u0313\u0300\tη\u0314\u0300\tη\u0313\u0301\tη\u0314\u0301"),
   (0x1F26, "η\u0313\u0342\tη\u0314\u0342\tΗ\u0313\tΗ\u0314\tΗ\u0313\u0300\tΗ\u0314\u0300"),
   (0x1F2C, "Η\u0313\u0301\tΗ\u0314\u0301\tΗ\u0313\u0342\tΗ\u0314\u0342\tι\u0313\tι\u0314"),
   (0x1F32, "ι\u0313\u0300\tι\u0314\u0300\tι\u0313\u0301\tι\u0314\u0301\tι\u0313\u0342"),
   (0x1F37, "ι\u0314\u0342\tΙ\u0313\tΙ\u0314\tΙ\u0313\u0300\tΙ\u0314\u0300\tΙ\u0313\u0301"),
   (0x1F3D, "Ι\u0314\u0301\tΙ\u0313\u0342\tΙ\u0314\u0342\tο\u0313\tο\u0314\tο\u0313\u0300"),
   (0x1F43, "ο\u0314\u0300\tο\u0313\u0301\tο\u0314\u0301"),
   (0x1F48, "Ο\u0313\tΟ\u0314\tΟ\u0313\u0300\tΟ\u0314\u0300\tΟ\u0313\u0301\tΟ\u0314\u0301"),
   (0x1F50, "υ\u0313\tυ\u0314\tυ\u0313\u0300\tυ\u0314\u0300\tυ\u0313\u0301\tυ\u0314\u0301"),
   (0x1F56, "υ\u0313\u0342\tυ\u0314\u0342"), (0x1F59, "Υ\u0314"), (0x1F5B, "Υ\u0314\u0300"),
   (0x1F5D, "Υ\u0314\u0301"),
   (0x1F5F, "Υ\u0314\u0342\tω\u0313\tω\u0314\tω\u0313\u0300\tω\u0314\u0300\tω\u0313\u0301"),
   (0x1F65, "ω\u0314\u0301\tω\u0313\u0342\tω\u0314\u0342\tΩ\u0313\tΩ\u0314\tΩ\u0313\u0300"),
   (0x1F6B, "Ω\u0314\u0300\tΩ\u0313\u0301\tΩ\u0314\u0301\tΩ\u0313\u0342\tΩ\u0314\u0342"),
   (0x1F70, "α\u0300\tα\u0301\tε\u0300\tε\u0301\tη\u0300\tη\u0301\tι\u0300\tι\u0301"),
   (0x1F78, "ο\u0300\tο\u0301\tυ\u0300\tυ\u0301\tω\u0300\tω\u0301"),
   (0x1F80, "α\u0313\u0345\tα\u0314\u0345\tα\u0313\u0300\u0345\tα\u0314\u0300\u0345"),
   (0x1F84, "α\u0313\u0301\u0345\tα\u0314\u0301\u0345\tα\u0313\u0342\u0345"),
   (0x1F87, "α\u0314\u0342\u0345\tΑ\u0313\u0345\tΑ\u0314\u0345\tΑ\u0313\u0300\u0345"),
   (0x1F8B, "Α\u0314\u0300\u0345\tΑ\u0313\u0301\u0345\tΑ\u0314\u0301\u0345"),
   (0x1F8E, "Α\u0313\u0342\u0345\tΑ\u0314\u0342\u0345\tη\u0313\u0345\tη\u0314\u0345"),
   (0x1F92, "η\u0313\u0300\u0345\tη\u0314\u0300\u0345\tη\u0313\u0301\u0345"),
   (0x1F95, "η\u0314\u0301\u0345\tη\u0313\u0342\u0345\tη\u0314\u0342\u0345\tΗ\u0313\u0345"),
   (0x1F99, "Η\u0314\u0345\tΗ\u0313\u0300\u0345\tΗ\u0314\u0300\u0345\tΗ\u0313\u0301\u0345"),
   (0x1F9D, "Η\u0314\u0301\u0345\tΗ\u0313\u0342\u0345\tΗ\u0314\u0342\u0345\tω\u0313\u0345"),
   (0x1FA1, "ω\u0314\u0345\tω\u0313\u0300\u0345\tω\u0314\u0300\u0345\tω\u0313\u0301\u0345"),
   (0x1FA5, "ω\u0314\u0301\u0345\tω\u0313\u0342\u0345\tω\u0314\u0342\u0345\tΩ\u0313\u0345"),
   (0x1FA9, "Ω\u0314\u0345\tΩ\u0313\u0300\u0345\tΩ\u0314\u0300\u0345\tΩ\u0313\u0301\u0345"),
   (0x1FAD, "Ω\u0314\u0301\u0345\tΩ\u0313\u0342\u0345\tΩ\u0314\u0342\u0345\tα\u0306"),
   (0x1FB1, "α\u0304\tα\u0300\u0345\tα\u0345\tα\u0301\u0345"),
   (0x1FB6, "α\u0342\tα\u0342\u0345\tΑ\u0306\tΑ\u0304\tΑ\u0300\tΑ\u0301\tΑ\u0345\t \u0313"),
   (0x1FBE, "ι\t \u0313\t \u0342\t \u0308\u0342\tη\u0300\u0345\tη\u0345\tη\u0301\u0345"),
   (0x1FC6, "η\u0342\tη\u0342\u0345\tΕ\u0300\tΕ\u0301\tΗ\u0300\tΗ\u0301\tΗ\u0345"),
   (0x1FCD, " \u0313\u0300\t \u0313\u0301\t \u0313\u0342\tι\u0306\tι\u0304\tι\u0308\u0300"),
   (0x1FD3, "ι\u0308\u0301"),
   (0x1FD6, "ι\u0342\tι\u0308\u0342\tΙ\u0306\tΙ\u0304\tΙ\u0300\tΙ\u0301"),
   (0x1FDD, " \u0314\u0300\t \u0314\u0301\t \u0314\u0342\tυ\u0306\tυ\u0304\tυ\u0308\u0300"),
   (0x1FE3, "υ\u0308\u0301\tρ\u0313\tρ\u0314\tυ\u0342\tυ\u0308\u0342\tΥ\u0306\tΥ\u0304"),
   (0x1FEA, "Υ\u0300\tΥ\u0301\tΡ\u0314\t \u0308\u0300\t \u0308\u0301\t\x60"),
   (0x1FF2, "ω\u0300\u0345\tω\u0345\tω\u0301\u0345"),
   (0x1FF6, "ω\u0342\tω\u0342\u0345\tΟ\u0300\tΟ\u0301\tΩ\u0300\tΩ\u0301\tΩ\u0345\t \u0301"),
   (0x1FFE, " \u0314"), (0x2000, " \t \t \t \t \t \t \t \t \t \t "), (0x2011, "‐"),
   (0x2017, " \u0333"), (0x2024, ".\t..\t..."), (0x202F, " "), (0x2033, "′′\t′′′"),
   (0x2036, "‵‵\t‵‵‵"), (0x203C, "!!"), (0x203E, " \u0305"), (0x2047, "??\t?!\t!?"),
   (0x2057, "′′′′"), (0x205F, " "), (0x2070, "0\ti"),
   (0x2074, "4\t5\t6\t7\t8\t9\t+\t−\t=\t(\t)\tn\t0\t1\t2\t3\t4\t5\t6\t7\t8\t9\t+\t−\t=\t("),
   (0x208E, ")"), (0x20A8, "Rs"), (0x2100, "a/c\ta/s\tC\t°C"), (0x2105, "c/o\tc/u\tƐ"),
   (0x2109, "°F\tg\tH\tH\tH\th\tħ\tI\tI\tL\tl"), (0x2115, "N\tNo"), (0x2119, "P\tQ\tR\tR\tR"),
   (0x2120, "SM\tTEL\tTM"), (0x2124, "Z"), (0x2126, "Ω"), (0x2128, "Z"),
   (0x212A, "K\tA\u030a\tB\tC"), (0x212F, "e\tE\tF"),
   (0x2133, "M\to\t\u05d0\t\u05d1\t\u05d2\t\u05d3\ti"), (0x213D, "γ\tΓ\tΠ\t∑"),
   (0x2145, "D\td\te\ti\tj"),
   (0x2153, "1⁄3\t2⁄3\t1⁄5\t2⁄5\t3⁄5\t4⁄5\t1⁄6\t5⁄6\t1⁄8\t3⁄8\t5⁄8\t7⁄8\t1⁄\tI\tII\tIII\tIV"),
   (0x2164, "V\tVI\tVII\tVIII\tIX\tX\tXI\tXII\tL\tC\tD\tM\ti\tii\tiii\tiv\tv\tvi\tvii\tviii"),
   (0x2178, "ix\tx\txi\txii\tl\tc\td\tm"), (0x219A, "←\u0338\t→\u0338"), (0x21AE, "↔\u0338"),
   (0x21CD, "⇐\u0338\t⇔\u0338\t⇒\u0338"), (0x2204, "∃\u0338"), (0x2209, "∈\u0338"),
   (0x220C, "∋\u0338"), (0x2224, "∣\u0338"), (0x2226, "∥\u0338"), (0x222C, "∫∫\t∫∫∫"),
   (0x222F, "∮∮\t∮∮∮"), (0x2241, "∼\u0338"), (0x2244, "≃\u0338"), (0x2247, "≅\u0338"),
   (0x2249, "≈\u0338"), (0x2260, "=\u0338"), (0x2262, "≡\u0338"),
   (0x226D, "≍\u0338\t<\u0338\t>\u0338\t≤\u0338\t≥\u0338"), (0x2274, "≲\u0338\t≳\u0338"),
   (0x2278, "≶\u0338\t≷\u0338"), (0x2280, "≺\u0338\t≻\u0338"), (0x2284, "⊂\u0338\t⊃\u0338"),
   (0x2288, "⊆\u0338\t⊇\u0338"), (0x22AC, "⊢\u0338\t⊨\u0338\t⊩\u0338\t⊫\u0338"),
   (0x22E0, "≼\u0338\t≽\u0338\t⊑\u0338\t⊒\u0338"), (0x22EA, "⊲\u0338\t⊳\u0338\t⊴\u0338\t⊵\u0338"),
   (0x2329, "〈\t〉"),
   (0x2460, "1\t2\t3\t4\t5\t6\t7\t8\t9\t10\t11\t12\t13\t14\t15\t16\t17\t18\t19\t20\t(1)"),
   (0x2475, "(2)\t(3)\t(4)\t(5)\t(6)\t(7)\t(8)\t(9)\t(10)\t(11)\t(12)\t(13)\t(14)\t(15)"),
   (0x2483, "(16)\t(17)\t(18)\t(19)\t(20)\t1.\t2.\t3.\t4.\t5.\t6.\t7.\t8.\t9.\t10.\t11."),
   (0x2493, "12.\t13.\t14.\t15.\t16.\t17.\t18.\t19.\t20.\t(a)\t(b)\t(c)\t(d)\t(e)\t(f)\t(g)"),
   (0x24A3, "(h)\t(i)\t(j)\t(k)\t(l)\t(m)\t(n)\t(o)\t(p)\t(q)\t(r)\t(s)\t(t)\t(u)\t(v)\t(w)"),
   (0x24B3, "(x)\t(y)\t(z)\tA\tB\tC\tD\tE\tF\tG\tH\tI\tJ\tK\tL\tM\tN\tO\tP\tQ\tR\tS\tT\tU"),
   (0x24CB, "V\tW\tX\tY\tZ\ta\tb\tc\td\te\tf\tg\th\ti\tj\tk\tl\tm\tn\to\tp\tq\tr\ts\tt\tu"),
   (0x24E5, "v\tw\tx\ty\tz\t0"), (0x2A0C, "∫∫∫∫"), (0x2A74, "::=\t==\t==="), (0x2ADC, "⫝\u0338"),
   (0x2E9F, "母"), (0x2EF3, "龟"),
   (0x2F00, "一\t丨\t丶\t丿\t乙\t亅\t二\t亠\t人\t儿\t入\t八\t冂\t冖\t冫\t几\t凵\t刀\t力\t勹\t匕\t匚\t匸\t十\t卜\t卩"),
   (0x2F1A, "厂\t厶\t又\t口\t囗\t土\t士\t夂\t夊\t夕\t大\t女\t子\t宀\t寸\t小\t尢\t尸\t屮\t山\t巛\t工\t己\t巾\t干\t幺"),
   (0x2F34, "广\t廴\t廾\t弋\t弓\t彐\t彡\t彳\t心\t戈\t戶\t手\t支\t攴\t文\t斗\t斤\t方\t无\t日\t曰\t月\t木\t欠\t止\t歹"),
   (0x2F4E, "殳\t毋\t比\t毛\t氏\t气\t水\t火\t爪\t父\t爻\t爿\t片\t牙\t牛\t犬\t玄\t玉\t瓜\t瓦\t甘\t生\t用\t田\t疋\t疒"),
   (0x2F68, "癶\t白\t皮\t皿\t目\t矛\t矢\t石\t示\t禸\t禾\t穴\t立\t竹\t米\t糸\t缶\t网\t羊\t羽\t老\t而\t耒\t耳\t聿\t肉"),
   (0x2F82, "臣\t自\t至\t臼\t舌\t舛\t舟\t艮\t色\t艸\t虍\t虫\t血\t行\t衣\t襾\t見\t角\t言\t谷\t豆\t豕\t豸\t貝\t赤\t走"),
   (0x2F9C, "足\t身\t車\t辛\t辰\t辵\t邑\t酉\t釆\t里\t金\t長\t門\t阜\t隶\t隹\t雨\t靑\t非\t面\t革\t韋\t韭\t音\t頁\t風"),
   (0x2FB6, "飛\t食\t首\t香\t馬\t骨\t高\t髟\t鬥\t鬯\t鬲\t鬼\t魚\t鳥\t鹵\t鹿\t麥\t麻\t黃\t黍\t黑\t黹\t黽\t鼎\t鼓\t鼠"),
   (0x2FD0, "鼻\t齊\t齒\t龍\t龜\t龠"), (0x3000, " "), (0x3036, "〒"), (0x3038, "十\t卄\t卅"),
   (0x304C, "か\u3099"), (0x304E, "き\u3099"), (0x3050, "く\u3099"), (0x3052, "け\u3099"),
   (0x3054, "こ\u3099"), (0x3056, "さ\u3099"), (0x3058, "し\u3099"), (0x305A, "す\u3099"),
   (0x305C, "せ\u3099"), (0x305E, "そ\u3099"), (0x3060, "た\u3099"), (0x3062, "ち\u3099"),
   (0x3065, "つ\u3099"), (0x3067, "て\u3099"), (0x3069, "と\u3099"), (0x3070, "は\u3099\tは\u309a"),
   (0x3073, "ひ\u3099\tひ\u309a"), (0x3076, "ふ\u3099\tふ\u309a"), (0x3079, "へ\u3099\tへ\u309a"),
   (0x307C, "ほ\u3099\tほ\u309a"), (0x3094, "う\u3099"), (0x309B, " \u3099\t \u309a"),
   (0x309E, "ゝ\u3099\tより"), (0x30AC, "カ\u3099"), (0x30AE, "キ\u3099"), (0x30B0, "ク\u3099"),
   (0x30B2, "ケ\u3099"), (0x30B4, "コ\u3099"), (0x30B6, "サ\u3099"), (0x30B8, "シ\u3099"),
   (0x30BA, "ス\u3099"), (0x30BC, "セ\u3099"), (0x30BE, "ソ\u3099"), (0x30C0, "タ\u3099"),
   (0x30C2, "チ\u3099"), (0x30C5, "ツ\u3099"), (0x30C7, "テ\u3099"), (0x30C9, "ト\u3099"),
   (0x30D0, "ハ\u3099\tハ\u309a"), (0x30D3, "ヒ\u3099\tヒ\u309a"), (0x30D6, "フ\u3099\tフ\u309a"),
   (0x30D9, "ヘ\u3099\tヘ\u309a"), (0x30DC, "ホ\u3099\tホ\u309a"), (0x30F4, "ウ\u3099"),
   (0x30F7, "ワ\u3099\tヰ\u3099\tヱ\u3099\tヲ\u3099"), (0x30FE, "ヽ\u3099\tコト"),
   (0x3131, "ᄀ\tᄁ\tᆪ\tᄂ\tᆬ\tᆭ\tᄃ\tᄄ\tᄅ\tᆰ\tᆱ\tᆲ\tᆳ\tᆴ\tᆵ\tᄚ\tᄆ\tᄇ\tᄈ\tᄡ\tᄉ\tᄊ\tᄋ\tᄌ\tᄍ\tᄎ"),
   (0x314B, "ᄏ\tᄐ\tᄑ\tᄒ\tᅡ\tᅢ\tᅣ\tᅤ\tᅥ\tᅦ\tᅧ\tᅨ\tᅩ\tᅪ\tᅫ\tᅬ\tᅭ\tᅮ\tᅯ\tᅰ\tᅱ\tᅲ\tᅳ\tᅴ\tᅵ\tᅠ"),
   (0x3165, "ᄔ\tᄕ\tᇇ\tᇈ\tᇌ\tᇎ\tᇓ\tᇗ\tᇙ\tᄜ\tᇝ\tᇟ\tᄝ\tᄞ\tᄠ\tᄢ\tᄣ\tᄧ\tᄩ\tᄫ\tᄬ\tᄭ\tᄮ\tᄯ\tᄲ\tᄶ"),
   (0x317F, "ᅀ\tᅇ\tᅌ\tᇱ\tᇲ\tᅗ\tᅘ\tᅙ\tᆄ\tᆅ\tᆈ\tᆑ\tᆒ\tᆔ\tᆞ\tᆡ"),
   (0x3192, "一\t二\t三\t四\t上\t中\t下\t甲\t乙\t丙\t丁\t天\t地\t人"),
   (0x3200, "(ᄀ)\t(ᄂ)\t(ᄃ)\t(ᄅ)\t(ᄆ)\t(ᄇ)\t(ᄉ)\t(ᄋ)\t(ᄌ)\t(ᄎ)\t(ᄏ)\t(ᄐ)\t(ᄑ)\t(ᄒ)\t(가)"),
   (0x320F, "(나)\t(다)\t(라)\t(마)\t(바)\t(사)\t(아)\t(자)\t(차)\t(카)\t(타)\t(파)\t(하)"),
   (0x321C, "(주)"),
   (0x3220, "(一)\t(二)\t(三)\t(四)\t(五)\t(六)\t(七)\t(八)\t(九)\t(十)\t(月)\t(火)\t(水)\t(木)\t(金)\t(土)"),
   (0x3230, "(日)\t(株)\t(有)\t(社)\t(名)\t(特)\t(財)\t(祝)\t(労)\t(代)\t(呼)\t(学)\t(監)\t(企)\t(資)\t(協)"),
   (0x3240, "(祭)\t(休)\t(自)\t(至)"),
   (0x3251, "21\t22\t23\t24\t25\t26\t27\t28\t29\t30\t31\t32\t33\t34\t35\tᄀ\tᄂ\tᄃ\tᄅ\tᄆ\tᄇ"),
   (0x3266, "ᄉ\tᄋ\tᄌ\tᄎ\tᄏ\tᄐ\tᄑ\tᄒ\t가\t나\t다\t라\t마\t바\t사\t아\t자\t차\t카\t타\t파\t하"),
   (0x3280, "一\t二\t三\t四\t五\t六\t七\t八\t九\t十\t月\t火\t水\t木\t金\t土\t日\t株\t有\t社\t名\t特\t財\t祝\t労\t秘"),
   (0x329A, "男\t女\t適\t優\t印\t注\t項\t休\t写\t正\t上\t中\t下\t左\t右\t医\t宗\t学\t監\t企\t資\t協\t夜\t36\t37"),
   (0x32B3, "38\t39\t40\t41\t42\t43\t44\t45\t46\t47\t48\t49\t50\t1月\t2月\t3月\t4月\t5月\t6月\t7月"),
   (0x32C7, "8月\t9月\t10月\t11月\t12月"),
   (0x32D0, "ア\tイ\tウ\tエ\tオ\tカ\tキ\tク\tケ\tコ\tサ\tシ\tス\tセ\tソ\tタ\tチ\tツ\tテ\tト\tナ\tニ\tヌ\tネ\tノ\tハ"),
   (0x32EA, "ヒ\tフ\tヘ\tホ\tマ\tミ\tム\tメ\tモ\tヤ\tユ\tヨ\tラ\tリ\tル\tレ\tロ\tワ\tヰ\tヱ\tヲ"),
   (0x3300, "アハ\u309aート\tアルファ\tアンヘ\u309aア\tアール\tイニンク\u3099\tインチ\tウォン\tエスクート\u3099\tエーカー"),
   (0x3309, "オンス\tオーム\tカイリ\tカラット\tカロリー\tカ\u3099ロン\tカ\u3099ンマ\tキ\u3099カ\u3099\tキ\u3099ニー"),
   (0x3312, "キュリー\tキ\u3099ルタ\u3099ー\tキロ\tキロク\u3099ラム\tキロメートル\tキロワット\tク\u3099ラム\tク\u3099ラムトン"),
   (0x331A, "クルセ\u3099イロ\tクローネ\tケース\tコルナ\tコーホ\u309a\tサイクル\tサンチーム\tシリンク\u3099\tセンチ\tセント"),
   (0x3324, "タ\u3099ース\tテ\u3099シ\tト\u3099ル\tトン\tナノ\tノット\tハイツ\tハ\u309aーセント\tハ\u309aーツ"),
   (0x332D, "ハ\u3099ーレル\tヒ\u309aアストル\tヒ\u309aクル\tヒ\u309aコ\tヒ\u3099ル\tファラット\u3099\tフィート"),
   (0x3334, "フ\u3099ッシェル\tフラン\tヘクタール\tヘ\u309aソ\tヘ\u309aニヒ\tヘルツ\tヘ\u309aンス\tヘ\u309aーシ\u3099"),
   (0x333C, "ヘ\u3099ータ\tホ\u309aイント\tホ\u3099ルト\tホン\tホ\u309aント\u3099\tホール\tホーン\tマイクロ\tマイル"),
   (0x3345, "マッハ\tマルク\tマンション\tミクロン\tミリ\tミリハ\u3099ール\tメカ\u3099\tメカ\u3099トン\tメートル\tヤート\u3099"),
   (0x334F, "ヤール\tユアン\tリットル\tリラ\tルヒ\u309aー\tルーフ\u3099ル\tレム\tレントケ\u3099ン\tワット\t0点\t1点\t2点"),
   (0x335B, "3点\t4点\t5点\t6点\t7点\t8点\t9点\t10点\t11点\t12点\t13点\t14点\t15点\t16点\t17点\t18点\t19点"),
   (0x336C, "20点\t21点\t22点\t23点\t24点\thPa\tda\tAU\tbar\toV\tpc"),
   (0x337B, "平成\t昭和\t大正\t明治\t株式会社\tpA\tnA\tμA\tmA\tkA\tKB\tMB\tGB\tcal\tkcal\tpF\tnF\tμF"),
   (0x338D, "μg\tmg\tkg\tHz\tkHz\tMHz\tGHz\tTHz\tμl\tml\tdl\tkl\tfm\tnm\tμm\tmm\tcm\tkm"),
   (0x339F, "mm2\tcm2\tm2\tkm2\tmm3\tcm3\tm3\tkm3\tm∕s\tm∕s2\tPa\tkPa\tMPa\tGPa\trad\trad∕s"),
   (0x33AF, "rad∕s2\tps\tns\tμs\tms\tpV\tnV\tμV\tmV\tkV\tMV\tpW\tnW\tμW\tmW\tkW\tMW\tkΩ\tMΩ"),
   (0x33C2, "a.m.\tBq\tcc\tcd\tC∕kg\tCo.\tdB\tGy\tha\tHP\tin\tKK\tKM\tkt\tlm\tln\tlog\tlx"),
   (0x33D4, "mb\tmil\tmol\tPH\tp.m.\tPPM\tPR\tsr\tSv\tWb"),
   (0x33E0, "1日\t2日\t3日\t4日\t5日\t6日\t7日\t8日\t9日\t10日\t11日\t12日\t13日\t14日\t15日\t16日\t17日"),
   (0x33F1, "18日\t19日\t20日\t21日\t22日\t23日\t24日\t25日\t26日\t27日\t28日\t29日\t30日\t31日"),
   (0xF900, "豈\t更\t車\t賈\t滑\t串\t句\t龜\t龜\t契\t金\t喇\t奈\t懶\t癩\t羅\t蘿\t螺\t裸\t邏\t樂\t洛\t烙\t珞\t落\t酪"),
   (0xF91A, "駱\t亂\t卵\t欄\t爛\t蘭\t鸞\t嵐\t濫\t藍\t襤\t拉\t臘\t蠟\t廊\t朗\t浪\t狼\t郎\t來\t冷\t勞\t擄\t櫓\t爐\t盧"),
   (0xF934, "老\t蘆\t虜\t路\t露\t魯\t鷺\t碌\t祿\t綠\t菉\t錄\t鹿\t論\t壟\t弄\t籠\t聾\t牢\t磊\t賂\t雷\t壘\t屢\t樓\t淚"),
   (0xF94E, "漏\t累\t縷\t陋\t勒\t肋\t凜\t凌\t稜\t綾\t菱\t陵\t讀\t拏\t樂\t諾\t丹\t寧\t怒\t率\t異\t北\t磻\t便\t復\t不"),
   (0xF968, "泌\t數\t索\t參\t塞\t省\t葉\t說\t殺\t辰\t沈\t拾\t若\t掠\t略\t亮\t兩\t凉\t梁\t糧\t良\t諒\t量\t勵\t呂\t女"),
   (0xF982, "廬\t旅\t濾\t礪\t閭\t驪\t麗\t黎\t力\t曆\t歷\t轢\t年\t憐\t戀\t撚\t漣\t煉\t璉\t秊\t練\t聯\t輦\t蓮\t連\t鍊"),
   (0xF99C, "列\t劣\t咽\t烈\t裂\t說\t廉\t念\t捻\t殮\t簾\t獵\t令\t囹\t寧\t嶺\t怜\t玲\t瑩\t羚\t聆\t鈴\t零\t靈\t領\t例"),
   (0xF9B6, "禮\t醴\t隸\t惡\t了\t僚\t寮\t尿\t料\t樂\t燎\t療\t蓼\t遼\t龍\t暈\t阮\t劉\t杻\t柳\t流\t溜\t琉\t留\t硫\t紐"),
   (0xF9D0, "類\t六\t戮\t陸\t倫\t崙\t淪\t輪\t律\t慄\t栗\t率\t隆\t利\t吏\t履\t易\t李\t梨\t泥\t理\t痢\t罹\t裏\t裡\t里"),
   (0xF9EA, "離\t匿\t溺\t吝\t燐\t璘\t藺\t隣\t鱗\t麟\t林\t淋\t臨\t立\t笠\t粒\t狀\t炙\t識\t什\t茶\t刺\t切\t度\t拓\t糖"),
   (0xFA04, "宅\t洞\t暴\t輻\t行\t降\t見\t廓\t兀\t嗀"), (0xFA10, "塚"), (0xFA12, "晴"),
   (0xFA15, "凞\t猪\t益\t礼\t神\t祥\t福\t靖\t精\t羽"), (0xFA20, "蘒"), (0xFA22, "諸"), (0xFA25, "逸\t都"),
   (0xFA2A, "飯\t飼\t館\t鶴"),
   (0xFA30, "侮\t僧\t免\t勉\t勤\t卑\t喝\t嘆\t器\t塀\t墨\t層\t屮\t悔\t慨\t憎\t懲\t敏\t既\t暑\t梅\t海\t渚\t漢\t煮\t爫"),
   (0xFA4A, "琢\t碑\t社\t祉\t祈\t祐\t祖\t祝\t禍\t禎\t穀\t突\t節\t練\t縉\t繁\t署\t者\t臭\t艹\t艹\t著\t褐\t視\t謁\t謹"),
   (0xFA64, "賓\t贈\t辶\t逸\t難\t響\t頻"), (0xFB00, "ff\tfi\tfl\tffi\tffl\tst\tst"),
   (0xFB13, "մն\tմե\tմի\tվն\tմխ"), (0xFB1D, "\u05d9\u05b4"),
   (0xFB1F, "\u05f2\u05b7\t\u05e2\t\u05d0\t\u05d3\t\u05d4\t\u05db\t\u05dc\t\u05dd\t\u05e8"),
   (0xFB28, "\u05ea\t+\t\u05e9\u05c1\t\u05e9\u05c2\t\u05e9\u05bc\u05c1\t\u05e9\u05bc\u05c2"),
   (0xFB2E, "\u05d0\u05b7\t\u05d0\u05b8\t\u05d0\u05bc\t\u05d1\u05bc\t\u05d2\u05bc"),
   (0xFB33, "\u05d3\u05bc\t\u05d4\u05bc\t\u05d5\u05bc\t\u05d6\u05bc"),
   (0xFB38, "\u05d8\u05bc\t\u05d9\u05bc\t\u05da\u05bc\t\u05db\u05bc\t\u05dc\u05bc"),
   (0xFB3E, "\u05de\u05bc"), (0xFB40, "\u05e0\u05bc\t\u05e1\u05bc"),
   (0xFB43, "\u05e3\u05bc\t\u05e4\u05bc"),
   (0xFB46, "\u05e6\u05bc\t\u05e7\u05bc\t\u05e8\u05bc\t\u05e9\u05bc\t\u05ea\u05bc"),
   (0xFB4B, "\u05d5\u05b9\t\u05d1\u05bf\t\u05db\u05bf\t\u05e4\u05bf\t\u05d0\u05dc\t\u0671"),
   (0xFB51, "\u0671\t\u067b\t\u067b\t\u067b\t\u067b\t\u067e\t\u067e\t\u067e\t\u067e\t\u0680"),
   (0xFB5B, "\u0680\t\u0680\t\u0680\t\u067a\t\u067a\t\u067a\t\u067a\t\u067f\t\u067f\t\u067f"),
   (0xFB65, "\u067f\t\u0679\t\u0679\t\u0679\t\u0679\t\u06a4\t\u06a4\t\u06a4\t\u06a4\t\u06a6"),
   (0xFB6F, "\u06a6\t\u06a6\t\u06a6\t\u0684\t\u0684\t\u0684\t\u0684\t\u0683\t\u0683\t\u0683"),
   (0xFB79, "\u0683\t\u0686\t\u0686\t\u0686\t\u0686\t\u0687\t\u0687\t\u0687\t\u0687\t\u068d"),
   (0xFB83, "\u068d\t\u068c\t\u068c\t\u068e\t\u068e\t\u0688\t\u0688\t\u0698\t\u0698\t\u0691"),
   (0xFB8D, "\u0691\t\u06a9\t\u06a9\t\u06a9\t\u06a9\t\u06af\t\u06af\t\u06af\t\u06af\t\u06b3"),
   (0xFB97, "\u06b3\t\u06b3\t\u06b3\t\u06b1\t\u06b1\t\u06b1\t\u06b1\t\u06ba\t\u06ba\t\u06bb"),
   (0xFBA1, "\u06bb\t\u06bb\t\u06bb\t\u06d5\u0654\t\u06d5\u0654\t\u06c1\t\u06c1\t\u06c1"),
   (0xFBA9, "\u06c1\t\u06be\t\u06be\t\u06be\t\u06be\t\u06d2\t\u06d2\t\u06d2\u0654"),
   (0xFBB1, "\u06d2\u0654"),
   (0xFBD3, "\u06ad\t\u06ad\t\u06ad\t\u06ad\t\u06c7\t\u06c7\t\u06c6\t\u06c6\t\u06c8\t\u06c8"),
   (0xFBDD, "\u06c7\u0674\t\u06cb\t\u06cb\t\u06c5\t\u06c5\t\u06c9\t\u06c9\t\u06d0\t\u06d0"),
   (0xFBE6, "\u06d0\t\u06d0\t\u0649\t\u0649\t\u064a\u0654\u0627\t\u064a\u0654\u0627"),
   (0xFBEC, "\u064a\u0654\u06d5\t\u064a\u0654\u06d5\t\u064a\u0654\u0648\t\u064a\u0654\u0648"),
   (0xFBF0, "\u064a\u0654\u06c7\t\u064a\u0654\u06c7\t\u064a\u0654\u06c6\t\u064a\u0654\u06c6"),
   (0xFBF4, "\u064a\u0654\u06c8\t\u064a\u0654\u06c8\t\u064a\u0654\u06d0\t\u064a\u0654\u06d0"),
   (0xFBF8, "\u064a\u0654\u06d0\t\u064a\u0654\u0649\t\u064a\u0654\u0649\t\u064a\u0654\u0649"),
   (0xFBFC, "\u06cc\t\u06cc\t\u06cc\t\u06cc\t\u064a\u0654\u062c\t\u064a\u0654\u062d"),
   (0xFC02, "\u064a\u0654\u0645\t\u064a\u0654\u0649\t\u064a\u0654\u064a\t\u0628\u062c"),
   (0xFC06, "\u0628\u062d\t\u0628\u062e\t\u0628\u0645\t\u0628\u0649\t\u0628\u064a"),
   (0xFC0B, "\u062a\u062c\t\u062a\u062d\t\u062a\u062e\t\u062a\u0645\t\u062a\u0649"),
   (0xFC10, "\u062a\u064a\t\u062b\u062c\t\u062b\u0645\t\u062b\u0649\t\u062b\u064a"),
   (0xFC15, "\u062c\u062d\t\u062c\u0645\t\u062d\u062c\t\u062d\u0645\t\u062e\u062c"),
   (0xFC1A, "\u062e\u062d\t\u062e\u0645\t\u0633\u062c\t\u0633\u062d\t\u0633\u062e"),
   (0xFC1F, "\u0633\u0645\t\u0635\u062d\t\u0635\u0645\t\u0636\u062c\t\u0636\u062d"),
   (0xFC24, "\u0636\u062e\t\u0636\u0645\t\u0637\u062d\t\u0637\u0645\t\u0638\u0645"),
   (0xFC29, "\u0639\u062c\t\u0639\u0645\t\u063a\u062c\t\u063a\u0645\t\u0641\u062c"),
   (0xFC2E, "\u0641\u062d\t\u0641\u062e\t\u0641\u0645\t\u0641\u0649\t\u0641\u064a"),
   (0xFC33, "\u0642\u062d\t\u0642\u0645\t\u0642\u0649\t\u0642\u064a\t\u0643\u0627"),
   (0xFC38, "\u0643\u062c\t\u0643\u062d\t\u0643\u062e\t\u0643\u0644\t\u0643\u0645"),
   (0xFC3D, "\u0643\u0649\t\u0643\u064a\t\u0644\u062c\t\u0644\u062d\t\u0644\u062e"),
   (0xFC42, "\u0644\u0645\t\u0644\u0649\t\u0644\u064a\t\u0645\u062c\t\u0645\u062d"),
   (0xFC47, "\u0645\u062e\t\u0645\u0645\t\u0645\u0649\t\u0645\u064a\t\u0646\u062c"),
   (0xFC4C, "\u0646\u062d\t\u0646\u062e\t\u0646\u0645\t\u0646\u0649\t\u0646\u064a"),
   (0xFC51, "\u0647\u062c\t\u0647\u0645\t\u0647\u0649\t\u0647\u064a\t\u064a\u062c"),
   (0xFC56, "\u064a\u062d\t\u064a\u062e\t\u064a\u0645\t\u064a\u0649\t\u064a\u064a"),
   (0xFC5B, "\u0630\u0670\t\u0631\u0670\t\u0649\u0670\t \u064c\u0651\t \u064d\u0651"),
   (0xFC60, " \u064e\u0651\t \u064f\u0651\t \u0650\u0651\t \u0651\u0670\t\u064a\u0654\u0631"),
   (0xFC65, "\u064a\u0654\u0632\t\u064a\u0654\u0645\t\u064a\u0654\u0646\t\u064a\u0654\u0649"),
   (0xFC69, "\u064a\u0654\u064a\t\u0628\u0631\t\u0628\u0632\t\u0628\u0645\t\u0628\u0646"),
   (0xFC6E, "\u0628\u0649\t\u0628\u064a\t\u062a\u0631\t\u062a\u0632\t\u062a\u0645"),
   (0xFC73, "\u062a\u0646\t\u062a\u0649\t\u062a\u064a\t\u062b\u0631\t\u062b\u0632"),
   (0xFC78, "\u062b\u0645\t\u062b\u0646\t\u062b\u0649\t\u062b\u064a\t\u0641\u0649"),
   (0xFC7D, "\u0641\u064a\t\u0642\u0649\t\u0642\u064a\t\u0643\u0627\t\u0643\u0644"),
   (0xFC82, "\u0643\u0645\t\u0643\u0649\t\u0643\u064a\t\u0644\u0645\t\u0644\u0649"),
   (0xFC87, "\u0644\u064a\t\u0645\u0627\t\u0645\u0645\t\u0646\u0631\t\u0646\u0632"),
   (0xFC8C, "\u0646\u0645\t\u0646\u0646\t\u0646\u0649\t\u0646\u064a\t\u0649\u0670"),
   (0xFC91, "\u064a\u0631\t\u064a\u0632\t\u064a\u0645\t\u064a\u0646\t\u064a\u0649"),
   (0xFC96, "\u064a\u064a\t\u064a\u0654\u062c\t\u064a\u0654\u062d\t\u064a\u0654\u062e"),
   (0xFC9A, "\u064a\u0654\u0645\t\u064a\u0654\u0647\t\u0628\u062c\t\u0628\u062d"),
   (0xFC9E, "\u0628\u062e\t\u0628\u0645\t\u0628\u0647\t\u062a\u062c\t\u062a\u062d"),
   (0xFCA3, "\u062a\u062e\t\u062a\u0645\t\u062a\u0647\t\u062b\u0645\t\u062c\u062d"),
   (0xFCA8, "\u062c\u0645\t\u062d\u062c\t\u062d\u0645\t\u062e\u062c\t\u062e\u0645"),
   (0xFCAD, "\u0633\u062c\t\u0633\u062d\t\u0633\u062e\t\u0633\u0645\t\u0635\u062d"),
   (0xFCB2, "\u0635\u062e\t\u0635\u0645\t\u0636\u062c\t\u0636\u062d\t\u0636\u062e"),
   (0xFCB7, "\u0636\u0645\t\u0637\u062d\t\u0638\u0645\t\u0639\u062c\t\u0639\u0645"),
   (0xFCBC, "\u063a\u062c\t\u063a\u0645\t\u0641\u062c\t\u0641\u062d\t\u0641\u062e"),
   (0xFCC1, "\u0641\u0645\t\u0642\u062d\t\u0642\u0645\t\u0643\u062c\t\u0643\u062d"),
   (0xFCC6, "\u0643\u062e\t\u0643\u0644\t\u0643\u0645\t\u0644\u062c\t\u0644\u062d"),
   (0xFCCB, "\u0644\u062e\t\u0644\u0645\t\u0644\u0647\t\u0645\u062c\t\u0645\u062d"),
   (0xFCD0, "\u0645\u062e\t\u0645\u0645\t\u0646\u062c\t\u0646\u062d\t\u0646\u062e"),
   (0xFCD5, "\u0646\u0645\t\u0646\u0647\t\u0647\u062c\t\u0647\u0645\t\u0647\u0670"),
   (0xFCDA, "\u064a\u062c\t\u064a\u062d\t\u064a\u062e\t\u064a\u0645\t\u064a\u0647"),
   (0xFCDF, "\u064a\u0654\u0645\t\u064a\u0654\u0647\t\u0628\u0645\t\u0628\u0647"),
   (0xFCE3, "\u062a\u0645\t\u062a\u0647\t\u062b\u0645\t\u062b\u0647\t\u0633\u0645"),
   (0xFCE8, "\u0633\u0647\t\u0634\u0645\t\u0634\u0647\t\u0643\u0644\t\u0643\u0645"),
   (0xFCED, "\u0644\u0645\t\u0646\u0645\t\u0646\u0647\t\u064a\u0645\t\u064a\u0647"),
   (0xFCF2, "\u0640\u064e\u0651\t\u0640\u064f\u0651\t\u0640\u0650\u0651\t\u0637\u0649"),
   (0xFCF6, "\u0637\u064a\t\u0639\u0649\t\u0639\u064a\t\u063a\u0649\t\u063a\u064a"),
   (0xFCFB, "\u0633\u0649\t\u0633\u064a\t\u0634\u0649\t\u0634\u064a\t\u062d\u0649"),
   (0xFD00, "\u062d\u064a\t\u062c\u0649\t\u062c\u064a\t\u062e\u0649\t\u062e\u064a"),
   (0xFD05, "\u0635\u0649\t\u0635\u064a\t\u0636\u0649\t\u0636\u064a\t\u0634\u062c"),
   (0xFD0A, "\u0634\u062d\t\u0634\u062e\t\u0634\u0645\t\u0634\u0631\t\u0633\u0631"),
   (0xFD0F, "\u0635\u0631\t\u0636\u0631\t\u0637\u0649\t\u0637\u064a\t\u0639\u0649"),
   (0xFD14, "\u0639\u064a\t\u063a\u0649\t\u063a\u064a\t\u0633\u0649\t\u0633\u064a"),
   (0xFD19, "\u0634\u0649\t\u0634\u064a\t\u062d\u0649\t\u062d\u064a\t\u062c\u0649"),
   (0xFD1E, "\u062c\u064a\t\u062e\u0649\t\u062e\u064a\t\u0635\u0649\t\u0635\u064a"),
   (0xFD23, "\u0636\u0649\t\u0636\u064a\t\u0634\u062c\t\u0634\u062d\t\u0634\u062e"),
   (0xFD28, "\u0634\u0645\t\u0634\u0631\t\u0633\u0631\t\u0635\u0631\t\u0636\u0631"),
   (0xFD2D, "\u0634\u062c\t\u0634\u062d\t\u0634\u062e\t\u0634\u0645\t\u0633\u0647"),
   (0xFD32, "\u0634\u0647\t\u0637\u0645\t\u0633\u062c\t\u0633\u062d\t\u0633\u062e"),
   (0xFD37, "\u0634\u062c\t\u0634\u062d\t\u0634\u062e\t\u0637\u0645\t\u0638\u0645"),
   (0xFD3C, "\u0627\u064b\t\u0627\u064b"),
   (0xFD50, "\u062a\u062c\u0645\t\u062a\u062d\u062c\t\u062a\u062d\u062c\t\u062a\u062d\u0645"),
   (0xFD54, "\u062a\u062e\u0645\t\u062a\u0645\u062c\t\u062a\u0645\u062d\t\u062a\u0645\u062e"),
   (0xFD58, "\u062c\u0645\u062d\t\u062c\u0645\u062d\t\u062d\u0645\u064a\t\u062d\u0645\u0649"),
   (0xFD5C, "\u0633\u062d\u062c\t\u0633\u062c\u062d\t\u0633\u062c\u0649\t\u0633\u0645\u062d"),
   (0xFD60, "\u0633\u0645\u062d\t\u0633\u0645\u062c\t\u0633\u0645\u0645\t\u0633\u0645\u0645"),
   (0xFD64, "\u0635\u062d\u062d\t\u0635\u062d\u062d\t\u0635\u0645\u0645\t\u0634\u062d\u0645"),
   (0xFD68, "\u0634\u062d\u0645\t\u0634\u062c\u064a\t\u0634\u0645\u062e\t\u0634\u0645\u062e"),
   (0xFD6C, "\u0634\u0645\u0645\t\u0634\u0645\u0645\t\u0636\u062d\u0649\t\u0636\u062e\u0645"),
   (0xFD70, "\u0636\u062e\u0645\t\u0637\u0645\u062d\t\u0637\u0645\u062d\t\u0637\u0645\u0645"),
   (0xFD74, "\u0637\u0645\u064a\t\u0639\u062c\u0645\t\u0639\u0645\u0645\t\u0639\u0645\u0645"),
   (0xFD78, "\u0639\u0645\u0649\t\u063a\u0645\u0645\t\u063a\u0645\u064a\t\u063a\u0645\u0649"),
   (0xFD7C, "\u0641\u062e\u0645\t\u0641\u062e\u0645\t\u0642\u0645\u062d\t\u0642\u0645\u0645"),
   (0xFD80, "\u0644\u062d\u0645\t\u0644\u062d\u064a\t\u0644\u062d\u0649\t\u0644\u062c\u062c"),
   (0xFD84, "\u0644\u062c\u062c\t\u0644\u062e\u0645\t\u0644\u062e\u0645\t\u0644\u0645\u062d"),
   (0xFD88, "\u0644\u0645\u062d\t\u0645\u062d\u062c\t\u0645\u062d\u0645\t\u0645\u062d\u064a"),
   (0xFD8C, "\u0645\u062c\u062d\t\u0645\u062c\u0645\t\u0645\u062e\u062c\t\u0645\u062e\u0645"),
   (0xFD92, "\u0645\u062c\u062e\t\u0647\u0645\u062c\t\u0647\u0645\u0645\t\u0646\u062d\u0645"),
   (0xFD96, "\u0646\u062d\u0649\t\u0646\u062c\u0645\t\u0646\u062c\u0645\t\u0646\u062c\u0649"),
   (0xFD9A, "\u0646\u0645\u064a\t\u0646\u0645\u0649\t\u064a\u0645\u0645\t\u064a\u0645\u0645"),
   (0xFD9E, "\u0628\u062e\u064a\t\u062a\u062c\u064a\t\u062a\u062c\u0649\t\u062a\u062e\u064a"),
   (0xFDA2, "\u062a\u062e\u0649\t\u062a\u0645\u064a\t\u062a\u0645\u0649\t\u062c\u0645\u064a"),
   (0xFDA6, "\u062c\u062d\u0649\t\u062c\u0645\u0649\t\u0633\u062e\u0649\t\u0635\u062d\u064a"),
   (0xFDAA, "\u0634\u062d\u064a\t\u0636\u062d\u064a\t\u0644\u062c\u064a\t\u0644\u0645\u064a"),
   (0xFDAE, "\u064a\u062d\u064a\t\u064a\u062c\u064a\t\u064a\u0645\u064a\t\u0645\u0645\u064a"),
   (0xFDB2, "\u0642\u0645\u064a\t\u0646\u062d\u064a\t\u0642\u0645\u062d\t\u0644\u062d\u0645"),
   (0xFDB6, "\u0639\u0645\u064a\t\u0643\u0645\u064a\t\u0646\u062c\u062d\t\u0645\u062e\u064a"),
   (0xFDBA, "\u0644\u062c\u0645\t\u0643\u0645\u0645\t\u0644\u062c\u0645\t\u0646\u062c\u062d"),
   (0xFDBE, "\u062c\u062d\u064a\t\u062d\u062c\u064a\t\u0645\u062c\u064a\t\u0641\u0645\u064a"),
   (0xFDC2, "\u0628\u062d\u064a\t\u0643\u0645\u0645\t\u0639\u062c\u0645\t\u0635\u0645\u0645"),
   (0xFDC6, "\u0633\u062e\u064a\t\u0646\u062c\u064a"),
   (0xFDF0, "\u0635\u0644\u06d2\t\u0642\u0644\u06d2\t\u0627\u0644\u0644\u0647"),
   (0xFDF3, "\u0627\u0643\u0628\u0631\t\u0645\u062d\u0645\u062f\t\u0635\u0644\u0639\u0645"),
   (0xFDF6, "\u0631\u0633\u0648\u0644\t\u0639\u0644\u064a\u0647\t\u0648\u0633\u0644\u0645"),
   (0xFDF9, "\u0635\u0644\u0649"),
   (0xFDFA, "\u0635\u0644\u0649 \u0627\u0644\u0644\u0647 \u0639\u0644\u064a\u0647 \u0648\u0633\u0644\u0645"),
   (0xFDFB, "\u062c\u0644 \u062c\u0644\u0627\u0644\u0647\t\u0631\u06cc\u0627\u0644"),
   (0xFE30, "..\t—\t–\t_\t_\t(\t)\t\x7b\t\x7d\t〔\t〕\t【\t】\t《\t》\t〈\t〉\t「\t」\t『\t』"),
   (0xFE49, " \u0305\t \u0305\t \u0305\t \u0305\t_\t_\t_\t,\t、\t."),
   (0xFE54, ";\t:\t?\t!\t—\t(\t)\t\x7b\t\x7d\t〔\t〕\t#\t&\t*\t+\t-\t<\t>\t="),
   (0xFE68, "\\\t$\t%\t@"), (0xFE70, " \u064b\t\u0640\u064b\t \u064c"), (0xFE74, " \u064d"),
   (0xFE76, " \u064e\t\u0640\u064e\t \u064f\t\u0640\u064f\t \u0650\t\u0640\u0650\t \u0651"),
   (0xFE7D, "\u0640\u0651\t \u0652\t\u0640\u0652\t\u0621\t\u0627\u0653\t\u0627\u0653"),
   (0xFE83, "\u0627\u0654\t\u0627\u0654\t\u0648\u0654\t\u0648\u0654\t\u0627\u0655"),
   (0xFE88, "\u0627\u0655\t\u064a\u0654\t\u064a\u0654\t\u064a\u0654\t\u064a\u0654\t\u0627"),
   (0xFE8E, "\u0627\t\u0628\t\u0628\t\u0628\t\u0628\t\u0629\t\u0629\t\u062a\t\u062a\t\u062a"),
   (0xFE98, "\u062a\t\u062b\t\u062b\t\u062b\t\u062b\t\u062c\t\u062c\t\u062c\t\u062c\t\u062d"),
   (0xFEA2, "\u062d\t\u062d\t\u062d\t\u062e\t\u062e\t\u062e\t\u062e\t\u062f\t\u062f\t\u0630"),
   (0xFEAC, "\u0630\t\u0631\t\u0631\t\u0632\t\u0632\t\u0633\t\u0633\t\u0633\t\u0633\t\u0634"),
   (0xFEB6, "\u0634\t\u0634\t\u0634\t\u0635\t\u0635\t\u0635\t\u0635\t\u0636\t\u0636\t\u0636"),
   (0xFEC0, "\u0636\t\u0637\t\u0637\t\u0637\t\u0637\t\u0638\t\u0638\t\u0638\t\u0638\t\u0639"),
   (0xFECA, "\u0639\t\u0639\t\u0639\t\u063a\t\u063a\t\u063a\t\u063a\t\u0641\t\u0641\t\u0641"),
   (0xFED4, "\u0641\t\u0642\t\u0642\t\u0642\t\u0642\t\u0643\t\u0643\t\u0643\t\u0643\t\u0644"),
   (0xFEDE, "\u0644\t\u0644\t\u0644\t\u0645\t\u0645\t\u0645\t\u0645\t\u0646\t\u0646\t\u0646"),
   (0xFEE8, "\u0646\t\u0647\t\u0647\t\u0647\t\u0647\t\u0648\t\u0648\t\u0649\t\u0649\t\u064a"),
   (0xFEF2, "\u064a\t\u064a\t\u064a\t\u0644\u0627\u0653\t\u0644\u0627\u0653"),
   (0xFEF7, "\u0644\u0627\u0654\t\u0644\u0627\u0654\t\u0644\u0627\u0655\t\u0644\u0627\u0655"),
   (0xFEFB, "\u0644\u0627\t\u0644\u0627"),
   (0xFF01, "!\t\"\t#\t$\t%\t&\t'\t(\t)\t*\t+\t,\t-\t.\t/\t0\t1\t2\t3\t4\t5\t6\t7\t8\t9\t:"),
   (0xFF1B, ";\t<\t=\t>\t?\t@\tA\tB\tC\tD\tE\tF\tG\tH\tI\tJ\tK\tL\tM\tN\tO\tP\tQ\tR\tS\tT"),
   (0xFF35, "U\tV\tW\tX\tY\tZ\t[\t\\\t]\t^\t_\t\x60\ta\tb\tc\td\te\tf\tg\th\ti\tj\tk\tl\tm"),
   (0xFF4E, "n\to\tp\tq\tr\ts\tt\tu\tv\tw\tx\ty\tz\t\x7b\t|\t\x7d\t~\t⦅\t⦆\t。\t「\t」\t、\t・"),
   (0xFF66, "ヲ\tァ\tィ\tゥ\tェ\tォ\tャ\tュ\tョ\tッ\tー\tア\tイ\tウ\tエ\tオ\tカ\tキ\tク\tケ\tコ\tサ\tシ\tス\tセ\tソ"),
   (0xFF80, "タ\tチ\tツ\tテ\tト\tナ\tニ\tヌ\tネ\tノ\tハ\tヒ\tフ\tヘ\tホ\tマ\tミ\tム\tメ\tモ\tヤ\tユ\tヨ\tラ\tリ\tル"),
   (0xFF9A, "レ\tロ\tワ\tン\t\u3099\t\u309a\tᅠ\tᄀ\tᄁ\tᆪ\tᄂ\tᆬ\tᆭ\tᄃ\tᄄ\tᄅ\tᆰ\tᆱ\tᆲ\tᆳ\tᆴ\tᆵ\tᄚ"),
   (0xFFB1, "ᄆ\tᄇ\tᄈ\tᄡ\tᄉ\tᄊ\tᄋ\tᄌ\tᄍ\tᄎ\tᄏ\tᄐ\tᄑ\tᄒ"), (0xFFC2, "ᅡ\tᅢ\tᅣ\tᅤ\tᅥ\tᅦ"),
   (0xFFCA, "ᅧ\tᅨ\tᅩ\tᅪ\tᅫ\tᅬ"), (0xFFD2, "ᅭ\tᅮ\tᅯ\tᅰ\tᅱ\tᅲ"), (0xFFDA, "ᅳ\tᅴ\tᅵ"),
   (0xFFE0, "¢\t£\t¬\t \u0304\t¦\t¥\t₩"), (0xFFE8, "│\t←\t↑\t→\t↓\t■\t○"),
   (0x1D15E, "𝅗𝅥\t𝅘𝅥\t𝅘𝅥𝅮\t𝅘𝅥𝅯\t𝅘𝅥𝅰\t𝅘𝅥𝅱\t𝅘𝅥𝅲"), (0x1D1BB, "𝆹𝅥\t𝆺𝅥\t𝆹𝅥𝅮\t𝆺𝅥𝅮\t𝆹𝅥𝅯\t𝆺𝅥𝅯"),
   (0x1D400, "A\tB\tC\tD\tE\tF\tG\tH\tI\tJ\tK\tL\tM\tN\tO\tP\tQ\tR\tS\tT\tU\tV\tW\tX\tY\tZ"),
   (0x1D41A, "a\tb\tc\td\te\tf\tg\th\ti\tj\tk\tl\tm\tn\to\tp\tq\tr\ts\tt\tu\tv\tw\tx\ty\tz"),
   (0x1D434, "A\tB\tC\tD\tE\tF\tG\tH\tI\tJ\tK\tL\tM\tN\tO\tP\tQ\tR\tS\tT\tU\tV\tW\tX\tY\tZ"),
   (0x1D44E, "a\tb\tc\td\te\tf\tg"),
   (0x1D456, "i\tj\tk\tl\tm\tn\to\tp\tq\tr\ts\tt\tu\tv\tw\tx\ty\tz\tA\tB\tC\tD\tE\tF\tG\tH"),
   (0x1D470, "I\tJ\tK\tL\tM\tN\tO\tP\tQ\tR\tS\tT\tU\tV\tW\tX\tY\tZ\ta\tb\tc\td\te\tf\tg\th"),
   (0x1D48A, "i\tj\tk\tl\tm\tn\to\tp\tq\tr\ts\tt\tu\tv\tw\tx\ty\tz\tA"), (0x1D49E, "C\tD"),
   (0x1D4A2, "G"), (0x1D4A5, "J\tK"), (0x1D4A9, "N\tO\tP\tQ"),
   (0x1D4AE, "S\tT\tU\tV\tW\tX\tY\tZ\ta\tb\tc\td"), (0x1D4BB, "f"), (0x1D4BD, "h\ti\tj\tk"),
   (0x1D4C2, "m\tn"),
   (0x1D4C5, "p\tq\tr\ts\tt\tu\tv\tw\tx\ty\tz\tA\tB\tC\tD\tE\tF\tG\tH\tI\tJ\tK\tL\tM\tN\tO"),
   (0x1D4DF, "P\tQ\tR\tS\tT\tU\tV\tW\tX\tY\tZ\ta\tb\tc\td\te\tf\tg\th\ti\tj\tk\tl\tm\tn\to"),
   (0x1D4F9, "p\tq\tr\ts\tt\tu\tv\tw\tx\ty\tz\tA\tB"), (0x1D507, "D\tE\tF\tG"),
   (0x1D50D, "J\tK\tL\tM\tN\tO\tP\tQ"), (0x1D516, "S\tT\tU\tV\tW\tX\tY"),
   (0x1D51E, "a\tb\tc\td\te\tf\tg\th\ti\tj\tk\tl\tm\tn\to\tp\tq\tr\ts\tt\tu\tv\tw\tx\ty\tz"),
   (0x1D538, "A\tB"), (0x1D53B, "D\tE\tF\tG"), (0x1D540, "I\tJ\tK\tL\tM"), (0x1D546, "O"),
   (0x1D54A, "S\tT\tU\tV\tW\tX\tY"),
   (0x1D552, "a\tb\tc\td\te\tf\tg\th\ti\tj\tk\tl\tm\tn\to\tp\tq\tr\ts\tt\tu\tv\tw\tx\ty\tz"),
   (0x1D56C, "A\tB\tC\tD\tE\tF\tG\tH\tI\tJ\tK\tL\tM\tN\tO\tP\tQ\tR\tS\tT\tU\tV\tW\tX\tY\tZ"),
   (0x1D586, "a\tb\tc\td\te\tf\tg\th\ti\tj\tk\tl\tm\tn\to\tp\tq\tr\ts\tt\tu\tv\tw\tx\ty\tz"),
   (0x1D5A0, "A\tB\tC\tD\tE\tF\tG\tH\tI\tJ\tK\tL\tM\tN\tO\tP\tQ\tR\tS\tT\tU\tV\tW\tX\tY\tZ"),
   (0x1D5BA, "a\tb\tc\td\te\tf\tg\th\ti\tj\tk\tl\tm\tn\to\tp\tq\tr\ts\tt\tu\tv\tw\tx\ty\tz"),
   (0x1D5D4, "A\tB\tC\tD\tE\tF\tG\tH\tI\tJ\tK\tL\tM\tN\tO\tP\tQ\tR\tS\tT\tU\tV\tW\tX\tY\tZ"),
   (0x1D5EE, "a\tb\tc\td\te\tf\tg\th\ti\tj\tk\tl\tm\tn\to\tp\tq\tr\ts\tt\tu\tv\tw\tx\ty\tz"),
   (0x1D608, "A\tB\tC\tD\tE\tF\tG\tH\tI\tJ\tK\tL\tM\tN\tO\tP\tQ\tR\tS\tT\tU\tV\tW\tX\tY\tZ"),
   (0x1D622, "a\tb\tc\td\te\tf\tg\th\ti\tj\tk\tl\tm\tn\to\tp\tq\tr\ts\tt\tu\tv\tw\tx\ty\tz"),
   (0x1D63C, "A\tB\tC\tD\tE\tF\tG\tH\tI\tJ\tK\tL\tM\tN\tO\tP\tQ\tR\tS\tT\tU\tV\tW\tX\tY\tZ"),
   (0x1D656, "a\tb\tc\td\te\tf\tg\th\ti\tj\tk\tl\tm\tn\to\tp\tq\tr\ts\tt\tu\tv\tw\tx\ty\tz"),
   (0x1D670, "A\tB\tC\tD\tE\tF\tG\tH\tI\tJ\tK\tL\tM\tN\tO\tP\tQ\tR\tS\tT\tU\tV\tW\tX\tY\tZ"),
   (0x1D68A, "a\tb\tc\td\te\tf\tg\th\ti\tj\tk\tl\tm\tn\to\tp\tq\tr\ts\tt\tu\tv\tw\tx\ty\tz"),
   (0x1D6A8, "Α\tΒ\tΓ\tΔ\tΕ\tΖ\tΗ\tΘ\tΙ\tΚ\tΛ\tΜ\tΝ\tΞ\tΟ\tΠ\tΡ\tΘ\tΣ\tΤ\tΥ\tΦ\tΧ\tΨ\tΩ\t∇"),
   (0x1D6C2, "α\tβ\tγ\tδ\tε\tζ\tη\tθ\tι\tκ\tλ\tμ\tν\tξ\tο\tπ\tρ\tς\tσ\tτ\tυ\tφ\tχ\tψ\tω\t∂"),
   (0x1D6DC, "ε\tθ\tκ\tφ\tρ\tπ\tΑ\tΒ\tΓ\tΔ\tΕ\tΖ\tΗ\tΘ\tΙ\tΚ\tΛ\tΜ\tΝ\tΞ\tΟ\tΠ\tΡ\tΘ\tΣ\tΤ"),
   (0x1D6F6, "Υ\tΦ\tΧ\tΨ\tΩ\t∇\tα\tβ\tγ\tδ\tε\tζ\tη\tθ\tι\tκ\tλ\tμ\tν\tξ\tο\tπ\tρ\tς\tσ\tτ"),
   (0x1D710, "υ\tφ\tχ\tψ\tω\t∂\tε\tθ\tκ\tφ\tρ\tπ\tΑ\tΒ\tΓ\tΔ\tΕ\tΖ\tΗ\tΘ\tΙ\tΚ\tΛ\tΜ\tΝ\tΞ"),
   (0x1D72A, "Ο\tΠ\tΡ\tΘ\tΣ\tΤ\tΥ\tΦ\tΧ\tΨ\tΩ\t∇\tα\tβ\tγ\tδ\tε\tζ\tη\tθ\tι\tκ\tλ\tμ\tν\tξ"),
   (0x1D744, "ο\tπ\tρ\tς\tσ\tτ\tυ\tφ\tχ\tψ\tω\t∂\tε\tθ\tκ\tφ\tρ\tπ\tΑ\tΒ\tΓ\tΔ\tΕ\tΖ\tΗ\tΘ"),
   (0x1D75E, "Ι\tΚ\tΛ\tΜ\tΝ\tΞ\tΟ\tΠ\tΡ\tΘ\tΣ\tΤ\tΥ\tΦ\tΧ\tΨ\tΩ\t∇\tα\tβ\tγ\tδ\tε\tζ\tη\tθ"),
   (0x1D778, "ι\tκ\tλ\tμ\tν\tξ\tο\tπ\tρ\tς\tσ\tτ\tυ\tφ\tχ\tψ\tω\t∂\tε\tθ\tκ\tφ\tρ\tπ\tΑ\tΒ"),
   (0x1D792, "Γ\tΔ\tΕ\tΖ\tΗ\tΘ\tΙ\tΚ\tΛ\tΜ\tΝ\tΞ\tΟ\tΠ\tΡ\tΘ\tΣ\tΤ\tΥ\tΦ\tΧ\tΨ\tΩ\t∇\tα\tβ"),
   (0x1D7AC, "γ\tδ\tε\tζ\tη\tθ\tι\tκ\tλ\tμ\tν\tξ\tο\tπ\tρ\tς\tσ\tτ\tυ\tφ\tχ\tψ\tω\t∂\tε\tθ"),
   (0x1D7C6, "κ\tφ\tρ\tπ"),
   (0x1D7CE, "0\t1\t2\t3\t4\t5\t6\t7\t8\t9\t0\t1\t2\t3\t4\t5\t6\t7\t8\t9\t0\t1\t2\t3\t4\t5"),
   (0x1D7E8, "6\t7\t8\t9\t0\t1\t2\t3\t4\t5\t6\t7\t8\t9\t0\t1\t2\t3\t4\t5\t6\t7\t8\t9"),
   (0x2F800, "丽\t丸\t乁\t𠄢\t你\t侮\t侻\t倂\t偺\t備\t僧\t像\t㒞\t𠘺\t免\t兔\t兤\t具\t𠔜\t㒹\t內\t再\t𠕋\t冗\t冤\t仌"),
   (0x2F81A, "冬\t况\t𩇟\t凵\t刃\t㓟\t刻\t剆\t割\t剷\t㔕\t勇\t勉\t勤\t勺\t包\t匆\t北\t卉\t卑\t博\t即\t卽\t卿\t卿\t卿"),
   (0x2F834, "𠨬\t灰\t及\t叟\t𠭣\t叫\t叱\t吆\t咞\t吸\t呈\t周\t咢\t哶\t唐\t啓\t啣\t善\t善\t喙\t喫\t喳\t嗂\t圖\t嘆\t圗"),
   (0x2F84E, "噑\t噴\t切\t壮\t城\t埴\t堍\t型\t堲\t報\t墬\t𡓤\t売\t壷\t夆\t多\t夢\t奢\t𡚨\t𡛪\t姬\t娛\t娧\t姘\t婦\t㛮"),
   (0x2F868, "𡍪\t嬈\t嬾\t嬾\t𡧈\t寃\t寘\t寧\t寳\t𡬘\t寿\t将\t弳\t尢\t㞁\t屠\t屮\t峀\t岍\t𡷤\t嵃\t𡷦\t嵮\t嵫\t嵼\t巡"),
   (0x2F882, "巢\t㠯\t巽\t帨\t帽\t幩\t㡢\t𢆃\t㡼\t庰\t庳\t庶\t廊\t𪎒\t廾\t𢌱\t𢌱\t舁\t弢\t弢\t㣇\t𣊸\t𦇚\t形\t彫\t㣣"),
   (0x2F89C, "徚\t忍\t志\t忹\t悁\t㤺\t㤜\t悔\t𢛔\t惇\t慈\t慌\t慎\t慌\t慺\t憎\t憲\t憤\t憯\t懞\t懲\t懶\t成\t戛\t扝\t抱"),
   (0x2F8B6, "拔\t捐\t𢬌\t挽\t拼\t捨\t掃\t揤\t𢯱\t搢\t揅\t掩\t㨮\t摩\t摾\t撝\t摷\t㩬\t敏\t敬\t𣀊\t旣\t書\t晉\t㬙\t暑"),
   (0x2F8D0, "㬈\t㫤\t冒\t冕\t最\t暜\t肭\t䏙\t朗\t望\t朡\t杞\t杓\t𣏃\t㭉\t柺\t枅\t桒\t梅\t𣑭\t梎\t栟\t椔\t㮝\t楂\t榣"),
   (0x2F8EA, "槪\t檨\t𣚣\t櫛\t㰘\t次\t𣢧\t歔\t㱎\t歲\t殟\t殺\t殻\t𣪍\t𡴋\t𣫺\t汎\t𣲼\t沿\t泍\t汧\t洖\t派\t海\t流\t浩"),
   (0x2F904, "浸\t涅\t𣴞\t洴\t港\t湮\t㴳\t滋\t滇\t𣻑\t淹\t潮\t𣽞\t𣾎\t濆\t瀹\t瀞\t瀛\t㶖\t灊\t災\t灷\t炭\t𠔥\t煅\t𤉣"),
   (0x2F91E, "熜\t䎫\t爨\t爵\t牐\t𤘈\t犀\t犕\t𤜵\t𤠔\t獺\t王\t㺬\t玥\t㺸\t㺸\t瑇\t瑜\t瑱\t璅\t瓊\t㼛\t甤\t𤰶\t甾\t𤲒"),
   (0x2F938, "異\t𢆟\t瘐\t𤾡\t𤾸\t𥁄\t㿼\t䀈\t直\t𥃳\t𥃲\t𥄙\t𥄳\t眞\t真\t真\t睊\t䀹\t瞋\t䁆\t䂖\t𥐝\t硎\t碌\t磌\t䃣"),
   (0x2F952, "𥘦\t祖\t𥚚\t𥛅\t福\t秫\t䄯\t穀\t穊\t穏\t𥥼\t𥪧\t𥪧\t窮\t䈂\t𥮫\t篆\t築\t䈧\t𥲀\t糒\t䊠\t糨\t糣\t紀\t𥾆"),
   (0x2F96C, "絣\t䌁\t緇\t縂\t繅\t䌴\t𦈨\t𦉇\t䍙\t𦋙\t罺\t𦌾\t羕\t翺\t者\t𦓚\t𦔣\t聠\t𦖨\t聰\t𣍟\t䏕\t育\t脃\t䐋\t脾"),
   (0x2F986, "媵\t𦞧\t𦞵\t𣎓\t𣎜\t舁\t舄\t辞\t䑫\t芑\t芋\t芝\t劳\t花\t芳\t芽\t苦\t𦬼\t若\t茝\t荣\t莭\t茣\t莽\t菧\t著"),
   (0x2F9A0, "荓\t菊\t菌\t菜\t𦰶\t𦵫\t𦳕\t䔫\t蓱\t蓳\t蔖\t𧏊\t蕤\t𦼬\t䕝\t䕡\t𦾱\t𧃒\t䕫\t虐\t虜\t虧\t虩\t蚩\t蚈\t蜎"),
   (0x2F9BA, "蛢\t蝹\t蜨\t蝫\t螆\t䵗\t蟡\t蠁\t䗹\t衠\t衣\t𧙧\t裗\t裞\t䘵\t裺\t㒻\t𧢮\t𧥦\t䚾\t䛇\t誠\t諭\t變\t豕\t𧲨"),
   (0x2F9D4, "貫\t賁\t贛\t起\t𧼯\t𠠄\t跋\t趼\t跰\t𠣞\t軔\t輸\t𨗒\t𨗭\t邔\t郱\t鄑\t𨜮\t鄛\t鈸\t鋗\t鋘\t鉼\t鏹\t鐕\t𨯺"),
   (0x2F9EE, "開\t䦕\t閷\t𨵷\t䧦\t雃\t嶲\t霣\t𩅅\t𩈚\t䩮\t䩶\t韠\t𩐊\t䪲\t𩒖\t頋\t頋\t頩\t𩖶\t飢\t䬳\t餩\t馧\t駂\t駾"),
   (0x2FA08, "䯎\t𩬰\t鬒\t鱀\t鳽\t䳎\t䳭\t鵧\t𪃎\t䳸\t𪄅\t𪈎\t𪊑\t麻\t䵖\t黹\t黾\t鼅\t鼏\t鼖\t鼻\t𪘀")]

end DfaTable.Text.Normal
