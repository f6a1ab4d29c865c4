/-!
Names of characters: those of letters of several scripts, of punctuation, mathematical and other
symbols and of pictures, and the other names of controls. Case does not matter in them. It does in
the names of ideographs, which end in their numbers, and of syllables, which end in their letters.
-/

namespace WindSymbols.Text

structure NameGroup where
  leading : String
  endings : List String

def nameGroups : List NameGroup :=
  [⟨"APL FUNCTIONAL SYMBOL",
      ["I-BEAM", "SQUISH QUAD", "QUAD EQUAL", "QUAD DIVIDE",
      "QUAD DIAMOND", "QUAD JOT", "QUAD CIRCLE", "CIRCLE STILE", "CIRCLE JOT", "SLASH BAR",
      "BACKSLASH BAR", "QUAD SLASH", "QUAD BACKSLASH", "QUAD LESS-THAN", "QUAD GREATER-THAN",
      "LEFTWARDS VANE", "RIGHTWARDS VANE", "QUAD LEFTWARDS ARROW", "QUAD RIGHTWARDS ARROW",
      "CIRCLE BACKSLASH", "DOWN TACK UNDERBAR", "DELTA STILE", "QUAD DOWN CARET", "QUAD DELTA",
      "DOWN TACK JOT", "UPWARDS VANE", "QUAD UPWARDS ARROW", "UP TACK OVERBAR", "DEL STILE",
      "QUAD UP CARET", "QUAD DEL", "UP TACK JOT", "DOWNWARDS VANE", "QUAD DOWNWARDS ARROW",
      "QUOTE UNDERBAR", "DELTA UNDERBAR", "DIAMOND UNDERBAR", "JOT UNDERBAR", "CIRCLE UNDERBAR",
      "UP SHOE JOT", "QUOTE QUAD", "CIRCLE STAR", "QUAD COLON", "UP TACK DIAERESIS",
      "DEL DIAERESIS", "STAR DIAERESIS", "JOT DIAERESIS", "CIRCLE DIAERESIS", "DOWN SHOE STILE",
      "LEFT SHOE STILE", "TILDE DIAERESIS", "GREATER-THAN DIAERESIS", "COMMA BAR", "DEL TILDE",
      "ZILDE", "STILE TILDE", "SEMICOLON UNDERBAR", "QUAD NOT EQUAL", "QUAD QUESTION",
      "DOWN CARET TILDE", "UP CARET TILDE", "IOTA", "RHO", "OMEGA", "ALPHA UNDERBAR",
      "EPSILON UNDERBAR", "IOTA UNDERBAR", "OMEGA UNDERBAR", "ALPHA", "QUAD"]⟩,
    ⟨"ARABIC",
      ["NUMBER SIGN", "SIGN SANAH", "FOOTNOTE MARKER", "SIGN SAFHA", "SIGN SAMVAT",
      "NUMBER MARK ABOVE", "RAY", "COMMA", "DATE SEPARATOR", "POETIC VERSE SIGN", "SIGN MISRA",
      "SIGN SALLALLAHOU ALAYHE WASSALLAM", "SIGN ALAYHE ASSALLAM", "SIGN RAHMATULLAH ALAYHE",
      "SIGN RADI ALLAHOU ANHU", "SIGN TAKHALLUS", "SMALL HIGH TAH",
      "SMALL HIGH LIGATURE ALEF WITH LAM WITH YEH", "SMALL HIGH ZAIN", "SMALL FATHA", "SMALL DAMMA",
      "SMALL KASRA", "SEMICOLON", "END OF TEXT MARK", "TRIPLE DOT PUNCTUATION MARK",
      "QUESTION MARK", "TATWEEL"]⟩,
    ⟨"ARABIC LETTER",
      ["MARK", "KASHMIRI YEH", "HAMZA", "ALEF WITH MADDA ABOVE",
      "ALEF WITH HAMZA ABOVE", "WAW WITH HAMZA ABOVE", "ALEF WITH HAMZA BELOW",
      "YEH WITH HAMZA ABOVE", "ALEF", "BEH", "TEH MARBUTA", "TEH", "THEH", "JEEM", "HAH", "KHAH",
      "DAL", "THAL", "REH", "ZAIN", "SEEN", "SHEEN", "SAD", "DAD", "TAH", "ZAH", "AIN", "GHAIN",
      "KEHEH WITH TWO DOTS ABOVE", "KEHEH WITH THREE DOTS BELOW", "FARSI YEH WITH INVERTED V",
      "FARSI YEH WITH TWO DOTS ABOVE", "FARSI YEH WITH THREE DOTS ABOVE", "FEH", "QAF", "KAF",
      "LAM", "MEEM", "NOON", "HEH", "WAW", "ALEF MAKSURA", "YEH"]⟩,
    ⟨"ARABIC-INDIC DIGIT",
      ["ZERO", "ONE", "TWO", "THREE", "FOUR", "FIVE", "SIX", "SEVEN",
      "EIGHT", "NINE"]⟩,
    ⟨"BLACK",
      ["LEFTWARDS BULLET", "RIGHTWARDS BULLET", "RIGHT-POINTING DOUBLE TRIANGLE",
      "LEFT-POINTING DOUBLE TRIANGLE", "UP-POINTING DOUBLE TRIANGLE",
      "DOWN-POINTING DOUBLE TRIANGLE", "RIGHT-POINTING DOUBLE TRIANGLE WITH VERTICAL BAR",
      "LEFT-POINTING DOUBLE TRIANGLE WITH VERTICAL BAR",
      "RIGHT-POINTING TRIANGLE WITH DOUBLE VERTICAL BAR", "MEDIUM LEFT-POINTING TRIANGLE",
      "MEDIUM RIGHT-POINTING TRIANGLE", "MEDIUM UP-POINTING TRIANGLE",
      "MEDIUM DOWN-POINTING TRIANGLE", "SQUARE FOR STOP", "CIRCLE FOR RECORD", "SQUARE",
      "SMALL SQUARE", "RECTANGLE", "VERTICAL RECTANGLE", "PARALLELOGRAM", "UP-POINTING TRIANGLE",
      "UP-POINTING SMALL TRIANGLE", "RIGHT-POINTING TRIANGLE", "RIGHT-POINTING SMALL TRIANGLE",
      "RIGHT-POINTING POINTER", "DOWN-POINTING TRIANGLE", "DOWN-POINTING SMALL TRIANGLE",
      "LEFT-POINTING TRIANGLE", "LEFT-POINTING SMALL TRIANGLE", "LEFT-POINTING POINTER", "DIAMOND",
      "CIRCLE", "LOWER RIGHT TRIANGLE", "LOWER LEFT TRIANGLE", "UPPER LEFT TRIANGLE",
      "UPPER RIGHT TRIANGLE", "MEDIUM SQUARE", "MEDIUM SMALL SQUARE", "SUN WITH RAYS", "STAR",
      "TELEPHONE", "SHOGI PIECE", "LEFT POINTING INDEX", "RIGHT POINTING INDEX", "SMILING FACE",
      "CHESS KING", "CHESS QUEEN", "CHESS ROOK", "CHESS BISHOP", "CHESS KNIGHT", "CHESS PAWN",
      "SPADE SUIT", "CLUB SUIT", "HEART SUIT", "DIAMOND SUIT", "UNIVERSAL RECYCLING SYMBOL",
      "CIRCLE WITH WHITE DOT RIGHT", "CIRCLE WITH TWO WHITE DOTS", "FLAG", "MOON LILITH",
      "DRAUGHTS MAN", "DRAUGHTS KING", "SNOWMAN", "TWO-WAY LEFT WAY TRAFFIC", "LEFT LANE MERGE",
      "TRUCK", "CROSS ON SHIELD", "SAFETY SCISSORS", "SCISSORS", "NIB", "FOUR POINTED STAR",
      "CENTRE WHITE STAR", "FLORETTE", "QUESTION MARK ORNAMENT", "DIAMOND MINUS WHITE X",
      "RIGHTWARDS ARROW", "RIGHTWARDS ARROWHEAD", "LARGE SQUARE", "VERY SMALL SQUARE", "PENTAGON",
      "HEXAGON", "LARGE CIRCLE", "MEDIUM DIAMOND", "MEDIUM LOZENGE", "SMALL DIAMOND",
      "SMALL LOZENGE", "HORIZONTAL ELLIPSE", "VERTICAL ELLIPSE", "SMALL STAR",
      "RIGHT-POINTING PENTAGON", "DROPLET", "PENNANT", "ROSETTE", "SQUARE BUTTON",
      "SKULL AND CROSSBONES", "TOUCHTONE TELEPHONE", "PUSHPIN", "LEFT POINTING BACKHAND INDEX",
      "RIGHT POINTING BACKHAND INDEX", "UP POINTING BACKHAND INDEX", "DOWN POINTING BACKHAND INDEX",
      "HEART", "HARD SHELL FLOPPY DISK", "FOLDER"]⟩,
    ⟨"BOX DRAWINGS",
      ["LIGHT HORIZONTAL", "HEAVY HORIZONTAL", "LIGHT VERTICAL",
      "HEAVY VERTICAL", "LIGHT TRIPLE DASH HORIZONTAL", "HEAVY TRIPLE DASH HORIZONTAL",
      "LIGHT TRIPLE DASH VERTICAL", "HEAVY TRIPLE DASH VERTICAL", "LIGHT QUADRUPLE DASH HORIZONTAL",
      "HEAVY QUADRUPLE DASH HORIZONTAL", "LIGHT QUADRUPLE DASH VERTICAL",
      "HEAVY QUADRUPLE DASH VERTICAL", "LIGHT DOWN AND RIGHT", "DOWN LIGHT AND RIGHT HEAVY",
      "DOWN HEAVY AND RIGHT LIGHT", "HEAVY DOWN AND RIGHT", "LIGHT DOWN AND LEFT",
      "DOWN LIGHT AND LEFT HEAVY", "DOWN HEAVY AND LEFT LIGHT", "HEAVY DOWN AND LEFT",
      "LIGHT UP AND RIGHT", "UP LIGHT AND RIGHT HEAVY", "UP HEAVY AND RIGHT LIGHT",
      "HEAVY UP AND RIGHT", "LIGHT UP AND LEFT", "UP LIGHT AND LEFT HEAVY",
      "UP HEAVY AND LEFT LIGHT", "HEAVY UP AND LEFT", "LIGHT VERTICAL AND RIGHT",
      "VERTICAL LIGHT AND RIGHT HEAVY", "UP HEAVY AND RIGHT DOWN LIGHT",
      "DOWN HEAVY AND RIGHT UP LIGHT", "VERTICAL HEAVY AND RIGHT LIGHT",
      "DOWN LIGHT AND RIGHT UP HEAVY", "UP LIGHT AND RIGHT DOWN HEAVY", "HEAVY VERTICAL AND RIGHT",
      "LIGHT VERTICAL AND LEFT", "VERTICAL LIGHT AND LEFT HEAVY", "UP HEAVY AND LEFT DOWN LIGHT",
      "DOWN HEAVY AND LEFT UP LIGHT", "VERTICAL HEAVY AND LEFT LIGHT",
      "DOWN LIGHT AND LEFT UP HEAVY", "UP LIGHT AND LEFT DOWN HEAVY", "HEAVY VERTICAL AND LEFT",
      "LIGHT DOWN AND HORIZONTAL", "LEFT HEAVY AND RIGHT DOWN LIGHT",
      "RIGHT HEAVY AND LEFT DOWN LIGHT", "DOWN LIGHT AND HORIZONTAL HEAVY",
      "DOWN HEAVY AND HORIZONTAL LIGHT", "RIGHT LIGHT AND LEFT DOWN HEAVY",
      "LEFT LIGHT AND RIGHT DOWN HEAVY", "HEAVY DOWN AND HORIZONTAL", "LIGHT UP AND HORIZONTAL",
      "LEFT HEAVY AND RIGHT UP LIGHT", "RIGHT HEAVY AND LEFT UP LIGHT",
      "UP LIGHT AND HORIZONTAL HEAVY", "UP HEAVY AND HORIZONTAL LIGHT",
      "RIGHT LIGHT AND LEFT UP HEAVY", "LEFT LIGHT AND RIGHT UP HEAVY", "HEAVY UP AND HORIZONTAL",
      "LIGHT VERTICAL AND HORIZONTAL", "LEFT HEAVY AND RIGHT VERTICAL LIGHT",
      "RIGHT HEAVY AND LEFT VERTICAL LIGHT", "VERTICAL LIGHT AND HORIZONTAL HEAVY",
      "UP HEAVY AND DOWN HORIZONTAL LIGHT", "DOWN HEAVY AND UP HORIZONTAL LIGHT",
      "VERTICAL HEAVY AND HORIZONTAL LIGHT", "LEFT UP HEAVY AND RIGHT DOWN LIGHT",
      "RIGHT UP HEAVY AND LEFT DOWN LIGHT", "LEFT DOWN HEAVY AND RIGHT UP LIGHT",
      "RIGHT DOWN HEAVY AND LEFT UP LIGHT", "DOWN LIGHT AND UP HORIZONTAL HEAVY",
      "UP LIGHT AND DOWN HORIZONTAL HEAVY", "RIGHT LIGHT AND LEFT VERTICAL HEAVY",
      "LEFT LIGHT AND RIGHT VERTICAL HEAVY", "HEAVY VERTICAL AND HORIZONTAL",
      "LIGHT DOUBLE DASH HORIZONTAL", "HEAVY DOUBLE DASH HORIZONTAL", "LIGHT DOUBLE DASH VERTICAL",
      "HEAVY DOUBLE DASH VERTICAL", "DOUBLE HORIZONTAL", "DOUBLE VERTICAL",
      "DOWN SINGLE AND RIGHT DOUBLE", "DOWN DOUBLE AND RIGHT SINGLE", "DOUBLE DOWN AND RIGHT",
      "DOWN SINGLE AND LEFT DOUBLE", "DOWN DOUBLE AND LEFT SINGLE", "DOUBLE DOWN AND LEFT",
      "UP SINGLE AND RIGHT DOUBLE", "UP DOUBLE AND RIGHT SINGLE", "DOUBLE UP AND RIGHT",
      "UP SINGLE AND LEFT DOUBLE", "UP DOUBLE AND LEFT SINGLE", "DOUBLE UP AND LEFT",
      "VERTICAL SINGLE AND RIGHT DOUBLE", "VERTICAL DOUBLE AND RIGHT SINGLE",
      "DOUBLE VERTICAL AND RIGHT", "VERTICAL SINGLE AND LEFT DOUBLE",
      "VERTICAL DOUBLE AND LEFT SINGLE", "DOUBLE VERTICAL AND LEFT",
      "DOWN SINGLE AND HORIZONTAL DOUBLE", "DOWN DOUBLE AND HORIZONTAL SINGLE",
      "DOUBLE DOWN AND HORIZONTAL", "UP SINGLE AND HORIZONTAL DOUBLE",
      "UP DOUBLE AND HORIZONTAL SINGLE", "DOUBLE UP AND HORIZONTAL",
      "VERTICAL SINGLE AND HORIZONTAL DOUBLE", "VERTICAL DOUBLE AND HORIZONTAL SINGLE",
      "DOUBLE VERTICAL AND HORIZONTAL", "LIGHT ARC DOWN AND RIGHT", "LIGHT ARC DOWN AND LEFT",
      "LIGHT ARC UP AND LEFT", "LIGHT ARC UP AND RIGHT", "LIGHT DIAGONAL UPPER RIGHT TO LOWER LEFT",
      "LIGHT DIAGONAL UPPER LEFT TO LOWER RIGHT", "LIGHT DIAGONAL CROSS", "LIGHT LEFT", "LIGHT UP",
      "LIGHT RIGHT", "LIGHT DOWN", "HEAVY LEFT", "HEAVY UP", "HEAVY RIGHT", "HEAVY DOWN",
      "LIGHT LEFT AND HEAVY RIGHT", "LIGHT UP AND HEAVY DOWN", "HEAVY LEFT AND LIGHT RIGHT",
      "HEAVY UP AND LIGHT DOWN"]⟩,
    ⟨"CIRCLED",
      ["PLUS", "MINUS", "TIMES", "DIVISION SLASH", "DOT OPERATOR", "RING OPERATOR",
      "ASTERISK OPERATOR", "EQUALS", "DASH", "HORIZONTAL BAR WITH NOTCH", "TRIANGLE DOWN",
      "DIGIT ONE", "DIGIT TWO", "DIGIT THREE", "DIGIT FOUR", "DIGIT FIVE", "DIGIT SIX",
      "DIGIT SEVEN", "DIGIT EIGHT", "DIGIT NINE", "NUMBER TEN", "NUMBER ELEVEN", "NUMBER TWELVE",
      "NUMBER THIRTEEN", "NUMBER FOURTEEN", "NUMBER FIFTEEN", "NUMBER SIXTEEN", "NUMBER SEVENTEEN",
      "NUMBER EIGHTEEN", "NUMBER NINETEEN", "NUMBER TWENTY", "DIGIT ZERO", "CROSSING LANES",
      "WHITE STAR", "OPEN CENTRE EIGHT POINTED STAR", "HEAVY WHITE RIGHTWARDS ARROW",
      "CROSS POMMEE", "INFORMATION SOURCE", "CROSS FORMEE WITH FOUR DOTS",
      "CROSS FORMEE WITH TWO DOTS", "CROSS FORMEE"]⟩,
    ⟨"CIRCLED LATIN CAPITAL LETTER",
      ["A", "B", "C", "D", "E", "F", "G", "H", "I", "J", "K",
      "L", "M", "N", "O", "P", "Q", "R", "S", "T", "U", "V", "W", "X", "Y", "Z"]⟩,
    ⟨"CIRCLED LATIN SMALL LETTER",
      ["A", "B", "C", "D", "E", "F", "G", "H", "I", "J", "K",
      "L", "M", "N", "O", "P", "Q", "R", "S", "T", "U", "V", "W", "X", "Y", "Z"]⟩,
    ⟨"CLOCK FACE",
      ["ONE OCLOCK", "TWO OCLOCK", "THREE OCLOCK", "FOUR OCLOCK", "FIVE OCLOCK",
      "SIX OCLOCK", "SEVEN OCLOCK", "EIGHT OCLOCK", "NINE OCLOCK", "TEN OCLOCK", "ELEVEN OCLOCK",
      "TWELVE OCLOCK", "ONE-THIRTY", "TWO-THIRTY", "THREE-THIRTY", "FOUR-THIRTY", "FIVE-THIRTY",
      "SIX-THIRTY", "SEVEN-THIRTY", "EIGHT-THIRTY", "NINE-THIRTY", "TEN-THIRTY", "ELEVEN-THIRTY",
      "TWELVE-THIRTY"]⟩,
    ⟨"COMBINING",
      ["GRAVE ACCENT", "ACUTE ACCENT", "CIRCUMFLEX ACCENT", "TILDE", "MACRON",
      "OVERLINE", "BREVE", "DOT ABOVE", "DIAERESIS", "HOOK ABOVE", "RING ABOVE",
      "DOUBLE ACUTE ACCENT", "CARON", "VERTICAL LINE ABOVE", "DOUBLE VERTICAL LINE ABOVE",
      "DOUBLE GRAVE ACCENT", "CANDRABINDU", "INVERTED BREVE", "TURNED COMMA ABOVE", "COMMA ABOVE",
      "REVERSED COMMA ABOVE", "COMMA ABOVE RIGHT", "GRAVE ACCENT BELOW", "ACUTE ACCENT BELOW",
      "LEFT TACK BELOW", "RIGHT TACK BELOW", "LEFT ANGLE ABOVE", "HORN", "LEFT HALF RING BELOW",
      "UP TACK BELOW", "DOWN TACK BELOW", "PLUS SIGN BELOW", "MINUS SIGN BELOW",
      "PALATALIZED HOOK BELOW", "RETROFLEX HOOK BELOW", "DOT BELOW", "DIAERESIS BELOW",
      "RING BELOW", "COMMA BELOW", "CEDILLA", "OGONEK", "VERTICAL LINE BELOW", "BRIDGE BELOW",
      "INVERTED DOUBLE ARCH BELOW", "CARON BELOW", "CIRCUMFLEX ACCENT BELOW", "BREVE BELOW",
      "INVERTED BREVE BELOW", "TILDE BELOW", "MACRON BELOW", "LOW LINE", "DOUBLE LOW LINE",
      "TILDE OVERLAY", "SHORT STROKE OVERLAY", "LONG STROKE OVERLAY", "SHORT SOLIDUS OVERLAY",
      "LONG SOLIDUS OVERLAY", "RIGHT HALF RING BELOW", "INVERTED BRIDGE BELOW", "SQUARE BELOW",
      "SEAGULL BELOW", "X ABOVE", "VERTICAL TILDE", "DOUBLE OVERLINE", "GRAVE TONE MARK",
      "ACUTE TONE MARK", "GREEK PERISPOMENI", "GREEK KORONIS", "GREEK DIALYTIKA TONOS",
      "GREEK YPOGEGRAMMENI", "CYRILLIC TITLO", "CYRILLIC PALATALIZATION", "CYRILLIC DASIA PNEUMATA",
      "CYRILLIC PSILI PNEUMATA", "CYRILLIC POKRYTIE", "CYRILLIC HUNDRED THOUSANDS SIGN",
      "CYRILLIC MILLIONS SIGN", "KATAKANA-HIRAGANA VOICED SOUND MARK",
      "KATAKANA-HIRAGANA SEMI-VOICED SOUND MARK"]⟩,
    ⟨"COPTIC CAPITAL LETTER",
      ["SHEI", "FEI", "KHEI", "HORI", "GANGIA", "SHIMA", "DEI"]⟩,
    ⟨"COPTIC SMALL LETTER",
      ["SHEI", "FEI", "KHEI", "HORI", "GANGIA", "SHIMA", "DEI"]⟩,
    ⟨"CYRILLIC CAPITAL LETTER",
      ["IE WITH GRAVE", "IO", "DJE", "GJE", "UKRAINIAN IE", "DZE",
      "BYELORUSSIAN-UKRAINIAN I", "YI", "JE", "LJE", "NJE", "TSHE", "KJE", "I WITH GRAVE",
      "SHORT U", "DZHE", "A", "BE", "VE", "GHE", "DE", "IE", "ZHE", "ZE", "I", "SHORT I", "KA",
      "EL", "EM", "EN", "O", "PE", "ER", "ES", "TE", "U", "EF", "HA", "TSE", "CHE", "SHA", "SHCHA",
      "HARD SIGN", "YERU", "SOFT SIGN", "E", "YU", "YA", "OMEGA", "YAT", "IOTIFIED E", "LITTLE YUS",
      "IOTIFIED LITTLE YUS", "BIG YUS", "IOTIFIED BIG YUS", "KSI", "PSI", "FITA", "IZHITSA",
      "IZHITSA WITH DOUBLE GRAVE ACCENT", "UK", "ROUND OMEGA", "OMEGA WITH TITLO", "OT", "KOPPA",
      "SHORT I WITH TAIL", "SEMISOFT SIGN", "ER WITH TICK", "GHE WITH UPTURN", "GHE WITH STROKE",
      "GHE WITH MIDDLE HOOK", "ZHE WITH DESCENDER", "ZE WITH DESCENDER", "KA WITH DESCENDER",
      "KA WITH VERTICAL STROKE", "KA WITH STROKE", "BASHKIR KA", "EN WITH DESCENDER",
      "PE WITH MIDDLE HOOK", "ABKHASIAN HA", "ES WITH DESCENDER", "TE WITH DESCENDER", "STRAIGHT U",
      "STRAIGHT U WITH STROKE", "HA WITH DESCENDER", "CHE WITH DESCENDER",
      "CHE WITH VERTICAL STROKE", "SHHA", "ABKHASIAN CHE", "ABKHASIAN CHE WITH DESCENDER",
      "ZHE WITH BREVE", "KA WITH HOOK", "EL WITH TAIL", "EN WITH HOOK", "EN WITH TAIL",
      "KHAKASSIAN CHE", "EM WITH TAIL", "A WITH BREVE", "A WITH DIAERESIS", "IE WITH BREVE",
      "SCHWA", "SCHWA WITH DIAERESIS", "ZHE WITH DIAERESIS", "ZE WITH DIAERESIS", "ABKHASIAN DZE",
      "I WITH MACRON", "I WITH DIAERESIS", "O WITH DIAERESIS", "BARRED O",
      "BARRED O WITH DIAERESIS", "E WITH DIAERESIS", "U WITH MACRON", "U WITH DIAERESIS",
      "U WITH DOUBLE ACUTE", "CHE WITH DIAERESIS", "GHE WITH DESCENDER", "YERU WITH DIAERESIS",
      "GHE WITH STROKE AND HOOK", "HA WITH HOOK", "HA WITH STROKE"]⟩,
    ⟨"CYRILLIC SMALL LETTER",
      ["A", "BE", "VE", "GHE", "DE", "IE", "ZHE", "ZE", "I",
      "SHORT I", "KA", "EL", "EM", "EN", "O", "PE", "ER", "ES", "TE", "U", "EF", "HA", "TSE", "CHE",
      "SHA", "SHCHA", "HARD SIGN", "YERU", "SOFT SIGN", "E", "YU", "YA", "IE WITH GRAVE", "IO",
      "DJE", "GJE", "UKRAINIAN IE", "DZE", "BYELORUSSIAN-UKRAINIAN I", "YI", "JE", "LJE", "NJE",
      "TSHE", "KJE", "I WITH GRAVE", "SHORT U", "DZHE", "OMEGA", "YAT", "IOTIFIED E", "LITTLE YUS",
      "IOTIFIED LITTLE YUS", "BIG YUS", "IOTIFIED BIG YUS", "KSI", "PSI", "FITA", "IZHITSA",
      "IZHITSA WITH DOUBLE GRAVE ACCENT", "UK", "ROUND OMEGA", "OMEGA WITH TITLO", "OT", "KOPPA",
      "SHORT I WITH TAIL", "SEMISOFT SIGN", "ER WITH TICK", "GHE WITH UPTURN", "GHE WITH STROKE",
      "GHE WITH MIDDLE HOOK", "ZHE WITH DESCENDER", "ZE WITH DESCENDER", "KA WITH DESCENDER",
      "KA WITH VERTICAL STROKE", "KA WITH STROKE", "BASHKIR KA", "EN WITH DESCENDER",
      "PE WITH MIDDLE HOOK", "ABKHASIAN HA", "ES WITH DESCENDER", "TE WITH DESCENDER", "STRAIGHT U",
      "STRAIGHT U WITH STROKE", "HA WITH DESCENDER", "CHE WITH DESCENDER",
      "CHE WITH VERTICAL STROKE", "SHHA", "ABKHASIAN CHE", "ABKHASIAN CHE WITH DESCENDER",
      "ZHE WITH BREVE", "KA WITH HOOK", "EL WITH TAIL", "EN WITH HOOK", "EN WITH TAIL",
      "KHAKASSIAN CHE", "EM WITH TAIL", "PALOCHKA", "A WITH BREVE", "A WITH DIAERESIS",
      "IE WITH BREVE", "SCHWA", "SCHWA WITH DIAERESIS", "ZHE WITH DIAERESIS", "ZE WITH DIAERESIS",
      "ABKHASIAN DZE", "I WITH MACRON", "I WITH DIAERESIS", "O WITH DIAERESIS", "BARRED O",
      "BARRED O WITH DIAERESIS", "E WITH DIAERESIS", "U WITH MACRON", "U WITH DIAERESIS",
      "U WITH DOUBLE ACUTE", "CHE WITH DIAERESIS", "GHE WITH DESCENDER", "YERU WITH DIAERESIS",
      "GHE WITH STROKE AND HOOK", "HA WITH HOOK", "HA WITH STROKE"]⟩,
    ⟨"DENTISTRY SYMBOL LIGHT",
      ["VERTICAL AND TOP RIGHT", "VERTICAL AND BOTTOM RIGHT",
      "VERTICAL WITH CIRCLE", "DOWN AND HORIZONTAL WITH CIRCLE", "UP AND HORIZONTAL WITH CIRCLE",
      "VERTICAL WITH TRIANGLE", "DOWN AND HORIZONTAL WITH TRIANGLE",
      "UP AND HORIZONTAL WITH TRIANGLE", "VERTICAL AND WAVE", "DOWN AND HORIZONTAL WITH WAVE",
      "UP AND HORIZONTAL WITH WAVE", "DOWN AND HORIZONTAL", "UP AND HORIZONTAL",
      "VERTICAL AND TOP LEFT", "VERTICAL AND BOTTOM LEFT"]⟩,
    ⟨"DEVANAGARI LETTER",
      ["SHORT A", "A", "AA", "I", "II", "U", "UU", "VOCALIC R",
      "VOCALIC L", "CANDRA E", "SHORT E", "E", "AI", "CANDRA O", "SHORT O", "O", "AU", "KA", "KHA",
      "GA", "GHA", "NGA", "CA", "CHA", "JA", "JHA", "NYA", "TTA", "TTHA", "DDA", "DDHA", "NNA",
      "TA", "THA", "DA", "DHA", "NA", "NNNA", "PA", "PHA", "BA", "BHA", "MA", "YA", "RA", "RRA",
      "LA", "LLA", "LLLA", "VA", "SHA", "SSA", "SA", "HA"]⟩,
    ⟨"DIGIT",
      ["ZERO", "ONE", "TWO", "THREE", "FOUR", "FIVE", "SIX", "SEVEN", "EIGHT", "NINE",
      "ONE FULL STOP", "TWO FULL STOP", "THREE FULL STOP", "FOUR FULL STOP", "FIVE FULL STOP",
      "SIX FULL STOP", "SEVEN FULL STOP", "EIGHT FULL STOP", "NINE FULL STOP"]⟩,
    ⟨"DINGBAT CIRCLED SANS-SERIF DIGIT",
      ["ONE", "TWO", "THREE", "FOUR", "FIVE", "SIX",
      "SEVEN", "EIGHT", "NINE"]⟩,
    ⟨"DINGBAT NEGATIVE CIRCLED",
      ["DIGIT ONE", "DIGIT TWO", "DIGIT THREE", "DIGIT FOUR",
      "DIGIT FIVE", "DIGIT SIX", "DIGIT SEVEN", "DIGIT EIGHT", "DIGIT NINE", "NUMBER TEN",
      "SANS-SERIF DIGIT ONE", "SANS-SERIF DIGIT TWO", "SANS-SERIF DIGIT THREE",
      "SANS-SERIF DIGIT FOUR", "SANS-SERIF DIGIT FIVE", "SANS-SERIF DIGIT SIX",
      "SANS-SERIF DIGIT SEVEN", "SANS-SERIF DIGIT EIGHT", "SANS-SERIF DIGIT NINE",
      "SANS-SERIF NUMBER TEN"]⟩,
    ⟨"DOUBLE",
      ["ACUTE ACCENT", "VERTICAL LINE", "LOW LINE", "LOW-9 QUOTATION MARK",
      "HIGH-REVERSED-9 QUOTATION MARK", "DAGGER", "PRIME", "EXCLAMATION MARK", "QUESTION MARK",
      "INTEGRAL", "VERTICAL BAR DOUBLE RIGHT TURNSTILE", "SUBSET", "SUPERSET", "INTERSECTION",
      "UNION", "VERTICAL BAR", "CIRCLED DIGIT ONE", "CIRCLED DIGIT TWO", "CIRCLED DIGIT THREE",
      "CIRCLED DIGIT FOUR", "CIRCLED DIGIT FIVE", "CIRCLED DIGIT SIX", "CIRCLED DIGIT SEVEN",
      "CIRCLED DIGIT EIGHT", "CIRCLED DIGIT NINE", "CIRCLED NUMBER TEN", "CURLY LOOP",
      "PRIME QUOTATION MARK"]⟩,
    ⟨"DOUBLE-STRUCK",
      ["CAPITAL C", "CAPITAL H", "CAPITAL N", "CAPITAL P", "CAPITAL Q",
      "CAPITAL R", "CAPITAL Z", "SMALL PI", "SMALL GAMMA", "CAPITAL GAMMA", "CAPITAL PI",
      "N-ARY SUMMATION", "ITALIC CAPITAL D", "ITALIC SMALL D", "ITALIC SMALL E", "ITALIC SMALL I",
      "ITALIC SMALL J"]⟩,
    ⟨"DOWNWARDS",
      ["ARROW", "TWO HEADED ARROW", "ARROW FROM BAR", "ZIGZAG ARROW",
      "ARROW WITH TIP LEFTWARDS", "ARROW WITH TIP RIGHTWARDS", "ARROW WITH CORNER LEFTWARDS",
      "HARPOON WITH BARB RIGHTWARDS", "HARPOON WITH BARB LEFTWARDS", "PAIRED ARROWS",
      "DOUBLE ARROW", "ARROW WITH DOUBLE STROKE", "DASHED ARROW", "WHITE ARROW",
      "ARROW LEFTWARDS OF UPWARDS ARROW", "QUADRUPLE ARROW", "BLACK ARROW",
      "TRIANGLE-HEADED ZIGZAG ARROW", "ROCKET"]⟩,
    ⟨"EMOJI MODIFIER FITZPATRICK",
      ["TYPE-1-2", "TYPE-3", "TYPE-4", "TYPE-5", "TYPE-6"]⟩,
    ⟨"FACE WITH",
      ["TEARS OF JOY", "COLD SWEAT", "STUCK-OUT TONGUE",
      "STUCK-OUT TONGUE AND WINKING EYE", "STUCK-OUT TONGUE AND TIGHTLY-CLOSED EYES",
      "LOOK OF TRIUMPH", "OPEN MOUTH", "OPEN MOUTH AND COLD SWEAT", "MEDICAL MASK", "ROLLING EYES",
      "NO GOOD GESTURE", "OK GESTURE", "THERMOMETER", "HEAD-BANDAGE", "COWBOY HAT",
      "ONE EYEBROW RAISED", "FINGER COVERING CLOSED LIPS", "OPEN MOUTH VOMITING",
      "PARTY HORN AND PARTY HAT", "UNEVEN EYES AND WAVY MOUTH", "PLEADING EYES", "MONOCLE",
      "OPEN EYES AND HAND OVER MOUTH", "PEEKING EYE", "DIAGONAL MOUTH"]⟩,
    ⟨"FULLWIDTH",
      ["EXCLAMATION MARK", "QUOTATION MARK", "NUMBER SIGN", "DOLLAR SIGN",
      "PERCENT SIGN", "AMPERSAND", "APOSTROPHE", "LEFT PARENTHESIS", "RIGHT PARENTHESIS",
      "ASTERISK", "PLUS SIGN", "COMMA", "HYPHEN-MINUS", "FULL STOP", "SOLIDUS", "DIGIT ZERO",
      "DIGIT ONE", "DIGIT TWO", "DIGIT THREE", "DIGIT FOUR", "DIGIT FIVE", "DIGIT SIX",
      "DIGIT SEVEN", "DIGIT EIGHT", "DIGIT NINE", "COLON", "SEMICOLON", "LESS-THAN SIGN",
      "EQUALS SIGN", "GREATER-THAN SIGN", "QUESTION MARK", "COMMERCIAL AT",
      "LATIN CAPITAL LETTER A", "LATIN CAPITAL LETTER B", "LATIN CAPITAL LETTER C",
      "LATIN CAPITAL LETTER D", "LATIN CAPITAL LETTER E", "LATIN CAPITAL LETTER F",
      "LATIN CAPITAL LETTER G", "LATIN CAPITAL LETTER H", "LATIN CAPITAL LETTER I",
      "LATIN CAPITAL LETTER J", "LATIN CAPITAL LETTER K", "LATIN CAPITAL LETTER L",
      "LATIN CAPITAL LETTER M", "LATIN CAPITAL LETTER N", "LATIN CAPITAL LETTER O",
      "LATIN CAPITAL LETTER P", "LATIN CAPITAL LETTER Q", "LATIN CAPITAL LETTER R",
      "LATIN CAPITAL LETTER S", "LATIN CAPITAL LETTER T", "LATIN CAPITAL LETTER U",
      "LATIN CAPITAL LETTER V", "LATIN CAPITAL LETTER W", "LATIN CAPITAL LETTER X",
      "LATIN CAPITAL LETTER Y", "LATIN CAPITAL LETTER Z", "LEFT SQUARE BRACKET", "REVERSE SOLIDUS",
      "RIGHT SQUARE BRACKET", "CIRCUMFLEX ACCENT", "LOW LINE", "GRAVE ACCENT",
      "LATIN SMALL LETTER A", "LATIN SMALL LETTER B", "LATIN SMALL LETTER C",
      "LATIN SMALL LETTER D", "LATIN SMALL LETTER E", "LATIN SMALL LETTER F",
      "LATIN SMALL LETTER G", "LATIN SMALL LETTER H", "LATIN SMALL LETTER I",
      "LATIN SMALL LETTER J", "LATIN SMALL LETTER K", "LATIN SMALL LETTER L",
      "LATIN SMALL LETTER M", "LATIN SMALL LETTER N", "LATIN SMALL LETTER O",
      "LATIN SMALL LETTER P", "LATIN SMALL LETTER Q", "LATIN SMALL LETTER R",
      "LATIN SMALL LETTER S", "LATIN SMALL LETTER T", "LATIN SMALL LETTER U",
      "LATIN SMALL LETTER V", "LATIN SMALL LETTER W", "LATIN SMALL LETTER X",
      "LATIN SMALL LETTER Y", "LATIN SMALL LETTER Z", "LEFT CURLY BRACKET", "VERTICAL LINE",
      "RIGHT CURLY BRACKET", "TILDE"]⟩,
    ⟨"GREATER-THAN",
      ["SIGN", "OR EQUAL TO", "OVER EQUAL TO", "BUT NOT EQUAL TO",
      "OR EQUIVALENT TO", "OR LESS-THAN", "WITH DOT", "EQUAL TO OR LESS-THAN",
      "BUT NOT EQUIVALENT TO"]⟩,
    ⟨"GREEK",
      ["NUMERAL SIGN", "LOWER NUMERAL SIGN", "YPOGEGRAMMENI",
      "SMALL REVERSED LUNATE SIGMA SYMBOL", "SMALL DOTTED LUNATE SIGMA SYMBOL",
      "SMALL REVERSED DOTTED LUNATE SIGMA SYMBOL", "QUESTION MARK", "TONOS", "DIALYTIKA TONOS",
      "ANO TELEIA", "CAPITAL KAI SYMBOL", "BETA SYMBOL", "THETA SYMBOL", "UPSILON WITH HOOK SYMBOL",
      "UPSILON WITH ACUTE AND HOOK SYMBOL", "UPSILON WITH DIAERESIS AND HOOK SYMBOL", "PHI SYMBOL",
      "PI SYMBOL", "KAI SYMBOL", "LETTER ARCHAIC KOPPA", "LETTER STIGMA", "LETTER DIGAMMA",
      "LETTER KOPPA", "LETTER SAMPI", "KAPPA SYMBOL", "RHO SYMBOL", "LUNATE SIGMA SYMBOL",
      "LETTER YOT", "CAPITAL THETA SYMBOL", "LUNATE EPSILON SYMBOL",
      "REVERSED LUNATE EPSILON SYMBOL", "CAPITAL LUNATE SIGMA SYMBOL", "RHO WITH STROKE SYMBOL",
      "CAPITAL REVERSED LUNATE SIGMA SYMBOL", "CAPITAL DOTTED LUNATE SIGMA SYMBOL",
      "CAPITAL REVERSED DOTTED LUNATE SIGMA SYMBOL"]⟩,
    ⟨"GREEK CAPITAL LETTER",
      ["HETA", "ARCHAIC SAMPI", "PAMPHYLIAN DIGAMMA", "YOT",
      "ALPHA WITH TONOS", "EPSILON WITH TONOS", "ETA WITH TONOS", "IOTA WITH TONOS",
      "OMICRON WITH TONOS", "UPSILON WITH TONOS", "OMEGA WITH TONOS", "ALPHA", "BETA", "GAMMA",
      "DELTA", "EPSILON", "ZETA", "ETA", "THETA", "IOTA", "KAPPA", "LAMDA", "MU", "NU", "XI",
      "OMICRON", "PI", "RHO", "SIGMA", "TAU", "UPSILON", "PHI", "CHI", "PSI", "OMEGA",
      "IOTA WITH DIALYTIKA", "UPSILON WITH DIALYTIKA", "SHO", "SAN"]⟩,
    ⟨"GREEK SMALL LETTER",
      ["HETA", "ARCHAIC SAMPI", "PAMPHYLIAN DIGAMMA",
      "IOTA WITH DIALYTIKA AND TONOS", "ALPHA WITH TONOS", "EPSILON WITH TONOS", "ETA WITH TONOS",
      "IOTA WITH TONOS", "UPSILON WITH DIALYTIKA AND TONOS", "ALPHA", "BETA", "GAMMA", "DELTA",
      "EPSILON", "ZETA", "ETA", "THETA", "IOTA", "KAPPA", "LAMDA", "MU", "NU", "XI", "OMICRON",
      "PI", "RHO", "FINAL SIGMA", "SIGMA", "TAU", "UPSILON", "PHI", "CHI", "PSI", "OMEGA",
      "IOTA WITH DIALYTIKA", "UPSILON WITH DIALYTIKA", "OMICRON WITH TONOS", "UPSILON WITH TONOS",
      "OMEGA WITH TONOS", "ARCHAIC KOPPA", "STIGMA", "DIGAMMA", "KOPPA", "SAMPI", "SHO", "SAN"]⟩,
    ⟨"HEAVY",
      ["WHITE DOWN-POINTING TRIANGLE", "CIRCLE WITH STROKE AND TWO DOTS ABOVE",
      "CHECK MARK", "MULTIPLICATION X", "BALLOT X", "GREEK CROSS", "OPEN CENTRE CROSS",
      "FOUR BALLOON-SPOKED ASTERISK", "OUTLINED BLACK STAR", "ASTERISK",
      "EIGHT POINTED RECTILINEAR BLACK STAR", "TEARDROP-SPOKED ASTERISK",
      "TEARDROP-SPOKED PINWHEEL ASTERISK", "CHEVRON SNOWFLAKE", "SPARKLE",
      "EIGHT TEARDROP-SPOKED PROPELLER ASTERISK", "EXCLAMATION MARK SYMBOL", "VERTICAL BAR",
      "SINGLE TURNED COMMA QUOTATION MARK ORNAMENT", "SINGLE COMMA QUOTATION MARK ORNAMENT",
      "DOUBLE TURNED COMMA QUOTATION MARK ORNAMENT", "DOUBLE COMMA QUOTATION MARK ORNAMENT",
      "LOW SINGLE COMMA QUOTATION MARK ORNAMENT", "LOW DOUBLE COMMA QUOTATION MARK ORNAMENT",
      "EXCLAMATION MARK ORNAMENT", "HEART EXCLAMATION MARK ORNAMENT", "BLACK HEART",
      "LEFT-POINTING ANGLE QUOTATION MARK ORNAMENT", "RIGHT-POINTING ANGLE QUOTATION MARK ORNAMENT",
      "LEFT-POINTING ANGLE BRACKET ORNAMENT", "RIGHT-POINTING ANGLE BRACKET ORNAMENT",
      "WIDE-HEADED RIGHTWARDS ARROW", "PLUS SIGN", "MINUS SIGN", "DIVISION SIGN",
      "SOUTH EAST ARROW", "RIGHTWARDS ARROW", "NORTH EAST ARROW", "ROUND-TIPPED RIGHTWARDS ARROW",
      "TRIANGLE-HEADED RIGHTWARDS ARROW", "DASHED TRIANGLE-HEADED RIGHTWARDS ARROW",
      "BLACK CURVED DOWNWARDS AND RIGHTWARDS ARROW", "BLACK CURVED UPWARDS AND RIGHTWARDS ARROW",
      "CONCAVE-POINTED BLACK RIGHTWARDS ARROW", "LOWER RIGHT-SHADOWED WHITE RIGHTWARDS ARROW",
      "UPPER RIGHT-SHADOWED WHITE RIGHTWARDS ARROW", "BLACK-FEATHERED SOUTH EAST ARROW",
      "BLACK-FEATHERED RIGHTWARDS ARROW", "BLACK-FEATHERED NORTH EAST ARROW",
      "TEARDROP-SHANKED RIGHTWARDS ARROW", "WEDGE-TAILED RIGHTWARDS ARROW", "LARGE CIRCLE",
      "OVAL WITH OVAL INSIDE", "CIRCLE WITH CIRCLE INSIDE", "CIRCLE", "CIRCLED SALTIRE",
      "DOLLAR SIGN", "LATIN CROSS", "NORTH WEST POINTING VINE LEAF",
      "SOUTH WEST POINTING VINE LEAF", "NORTH EAST POINTING VINE LEAF",
      "SOUTH EAST POINTING VINE LEAF", "NORTH WEST POINTING BUD", "SOUTH WEST POINTING BUD",
      "NORTH EAST POINTING BUD", "SOUTH EAST POINTING BUD", "SCRIPT LIGATURE ET ORNAMENT",
      "LIGATURE OPEN ET ORNAMENT", "AMPERSAND ORNAMENT", "INTERROBANG ORNAMENT",
      "SANS-SERIF INTERROBANG ORNAMENT"]⟩,
    ⟨"HEBREW LETTER",
      ["ALEF", "BET", "GIMEL", "DALET", "HE", "VAV", "ZAYIN", "HET", "TET",
      "YOD", "FINAL KAF", "KAF", "LAMED", "FINAL MEM", "MEM", "FINAL NUN", "NUN", "SAMEKH", "AYIN",
      "FINAL PE", "PE", "FINAL TSADI", "TSADI", "QOF", "RESH", "SHIN", "TAV"]⟩,
    ⟨"HIRAGANA LETTER",
      ["SMALL A", "A", "SMALL I", "I", "SMALL U", "U", "SMALL E", "E",
      "SMALL O", "O", "KA", "GA", "KI", "GI", "KU", "GU", "KE", "GE", "KO", "GO", "SA", "ZA", "SI",
      "ZI", "SU", "ZU", "SE", "ZE", "SO", "ZO", "TA", "DA", "TI", "DI", "SMALL TU", "TU", "DU",
      "TE", "DE", "TO", "DO", "NA", "NI", "NU", "NE", "NO", "HA", "BA", "PA", "HI", "BI", "PI",
      "HU", "BU", "PU", "HE", "BE", "PE", "HO", "BO", "PO", "MA", "MI", "MU", "ME", "MO",
      "SMALL YA", "YA", "SMALL YU", "YU", "SMALL YO", "YO", "RA", "RI", "RU", "RE", "RO",
      "SMALL WA", "WA", "WI", "WE", "WO", "N", "VU", "SMALL KA", "SMALL KE"]⟩,
    ⟨"HORIZONTAL",
      ["BAR", "ELLIPSIS", "LINE EXTENSION", "SCAN LINE-1", "SCAN LINE-3",
      "SCAN LINE-7", "SCAN LINE-9", "MALE WITH STROKE SIGN", "BLACK HEXAGON", "TRAFFIC LIGHT",
      "TABULATION", "TABULATION SET", "TABULATION WITH JUSTIFICATION"]⟩,
    ⟨"KATAKANA LETTER",
      ["SMALL A", "A", "SMALL I", "I", "SMALL U", "U", "SMALL E", "E",
      "SMALL O", "O", "KA", "GA", "KI", "GI", "KU", "GU", "KE", "GE", "KO", "GO", "SA", "ZA", "SI",
      "ZI", "SU", "ZU", "SE", "ZE", "SO", "ZO", "TA", "DA", "TI", "DI", "SMALL TU", "TU", "DU",
      "TE", "DE", "TO", "DO", "NA", "NI", "NU", "NE", "NO", "HA", "BA", "PA", "HI", "BI", "PI",
      "HU", "BU", "PU", "HE", "BE", "PE", "HO", "BO", "PO", "MA", "MI", "MU", "ME", "MO",
      "SMALL YA", "YA", "SMALL YU", "YU", "SMALL YO", "YO", "RA", "RI", "RU", "RE", "RO",
      "SMALL WA", "WA", "WI", "WE", "WO", "N", "VU", "SMALL KA", "SMALL KE", "VA", "VI", "VE",
      "VO"]⟩,
    ⟨"LATIN CAPITAL LETTER",
      ["A", "B", "C", "D", "E", "F", "G", "H", "I", "J", "K", "L", "M",
      "N", "O", "P", "Q", "R", "S", "T", "U", "V", "W", "X", "Y", "Z", "A WITH GRAVE",
      "A WITH ACUTE", "A WITH CIRCUMFLEX", "A WITH TILDE", "A WITH DIAERESIS", "A WITH RING ABOVE",
      "AE", "C WITH CEDILLA", "E WITH GRAVE", "E WITH ACUTE", "E WITH CIRCUMFLEX",
      "E WITH DIAERESIS", "I WITH GRAVE", "I WITH ACUTE", "I WITH CIRCUMFLEX", "I WITH DIAERESIS",
      "ETH", "N WITH TILDE", "O WITH GRAVE", "O WITH ACUTE", "O WITH CIRCUMFLEX", "O WITH TILDE",
      "O WITH DIAERESIS", "O WITH STROKE", "U WITH GRAVE", "U WITH ACUTE", "U WITH CIRCUMFLEX",
      "U WITH DIAERESIS", "Y WITH ACUTE", "THORN", "A WITH MACRON", "A WITH BREVE", "A WITH OGONEK",
      "C WITH ACUTE", "C WITH CIRCUMFLEX", "C WITH DOT ABOVE", "C WITH CARON", "D WITH CARON",
      "D WITH STROKE", "E WITH MACRON", "E WITH BREVE", "E WITH DOT ABOVE", "E WITH OGONEK",
      "E WITH CARON", "G WITH CIRCUMFLEX", "G WITH BREVE", "G WITH DOT ABOVE", "G WITH CEDILLA",
      "H WITH CIRCUMFLEX", "H WITH STROKE", "I WITH TILDE", "I WITH MACRON", "I WITH BREVE",
      "I WITH OGONEK", "I WITH DOT ABOVE", "J WITH CIRCUMFLEX", "K WITH CEDILLA", "L WITH ACUTE",
      "L WITH CEDILLA", "L WITH CARON", "L WITH MIDDLE DOT", "L WITH STROKE", "N WITH ACUTE",
      "N WITH CEDILLA", "N WITH CARON", "ENG", "O WITH MACRON", "O WITH BREVE",
      "O WITH DOUBLE ACUTE", "R WITH ACUTE", "R WITH CEDILLA", "R WITH CARON", "S WITH ACUTE",
      "S WITH CIRCUMFLEX", "S WITH CEDILLA", "S WITH CARON", "T WITH CEDILLA", "T WITH CARON",
      "T WITH STROKE", "U WITH TILDE", "U WITH MACRON", "U WITH BREVE", "U WITH RING ABOVE",
      "U WITH DOUBLE ACUTE", "U WITH OGONEK", "W WITH CIRCUMFLEX", "Y WITH CIRCUMFLEX",
      "Y WITH DIAERESIS", "Z WITH ACUTE", "Z WITH DOT ABOVE", "Z WITH CARON", "B WITH HOOK",
      "B WITH TOPBAR", "TONE SIX", "OPEN O", "C WITH HOOK", "AFRICAN D", "D WITH HOOK",
      "D WITH TOPBAR", "REVERSED E", "SCHWA", "OPEN E", "F WITH HOOK", "G WITH HOOK", "GAMMA",
      "IOTA", "I WITH STROKE", "K WITH HOOK", "TURNED M", "N WITH LEFT HOOK", "O WITH MIDDLE TILDE",
      "O WITH HORN", "OI", "P WITH HOOK", "TONE TWO", "ESH", "T WITH HOOK", "T WITH RETROFLEX HOOK",
      "U WITH HORN", "UPSILON", "V WITH HOOK", "Y WITH HOOK", "Z WITH STROKE", "EZH",
      "EZH REVERSED", "TONE FIVE", "DZ WITH CARON", "D WITH SMALL LETTER Z WITH CARON", "LJ",
      "L WITH SMALL LETTER J", "NJ", "N WITH SMALL LETTER J", "A WITH CARON", "I WITH CARON",
      "O WITH CARON", "U WITH CARON", "U WITH DIAERESIS AND MACRON", "U WITH DIAERESIS AND ACUTE",
      "U WITH DIAERESIS AND CARON", "U WITH DIAERESIS AND GRAVE", "A WITH DIAERESIS AND MACRON",
      "A WITH DOT ABOVE AND MACRON", "AE WITH MACRON", "G WITH STROKE", "G WITH CARON",
      "K WITH CARON", "O WITH OGONEK", "O WITH OGONEK AND MACRON", "EZH WITH CARON", "DZ",
      "D WITH SMALL LETTER Z", "G WITH ACUTE", "HWAIR", "WYNN", "N WITH GRAVE",
      "A WITH RING ABOVE AND ACUTE", "AE WITH ACUTE", "O WITH STROKE AND ACUTE",
      "A WITH DOUBLE GRAVE", "A WITH INVERTED BREVE", "E WITH DOUBLE GRAVE",
      "E WITH INVERTED BREVE", "I WITH DOUBLE GRAVE", "I WITH INVERTED BREVE",
      "O WITH DOUBLE GRAVE", "O WITH INVERTED BREVE", "R WITH DOUBLE GRAVE",
      "R WITH INVERTED BREVE", "U WITH DOUBLE GRAVE", "U WITH INVERTED BREVE", "S WITH COMMA BELOW",
      "T WITH COMMA BELOW", "YOGH", "H WITH CARON", "N WITH LONG RIGHT LEG", "OU", "Z WITH HOOK",
      "A WITH DOT ABOVE", "E WITH CEDILLA", "O WITH DIAERESIS AND MACRON",
      "O WITH TILDE AND MACRON", "O WITH DOT ABOVE", "O WITH DOT ABOVE AND MACRON", "Y WITH MACRON",
      "A WITH STROKE", "C WITH STROKE", "L WITH BAR", "T WITH DIAGONAL STROKE", "GLOTTAL STOP",
      "B WITH STROKE", "U BAR", "TURNED V", "E WITH STROKE", "J WITH STROKE",
      "SMALL Q WITH HOOK TAIL", "R WITH STROKE", "Y WITH STROKE", "A WITH RING BELOW",
      "B WITH DOT ABOVE", "B WITH DOT BELOW", "B WITH LINE BELOW", "C WITH CEDILLA AND ACUTE",
      "D WITH DOT ABOVE", "D WITH DOT BELOW", "D WITH LINE BELOW", "D WITH CEDILLA",
      "D WITH CIRCUMFLEX BELOW", "E WITH MACRON AND GRAVE", "E WITH MACRON AND ACUTE",
      "E WITH CIRCUMFLEX BELOW", "E WITH TILDE BELOW", "E WITH CEDILLA AND BREVE",
      "F WITH DOT ABOVE", "G WITH MACRON", "H WITH DOT ABOVE", "H WITH DOT BELOW",
      "H WITH DIAERESIS", "H WITH CEDILLA", "H WITH BREVE BELOW", "I WITH TILDE BELOW",
      "I WITH DIAERESIS AND ACUTE", "K WITH ACUTE", "K WITH DOT BELOW", "K WITH LINE BELOW",
      "L WITH DOT BELOW", "L WITH DOT BELOW AND MACRON", "L WITH LINE BELOW",
      "L WITH CIRCUMFLEX BELOW", "M WITH ACUTE", "M WITH DOT ABOVE", "M WITH DOT BELOW",
      "N WITH DOT ABOVE", "N WITH DOT BELOW", "N WITH LINE BELOW", "N WITH CIRCUMFLEX BELOW",
      "O WITH TILDE AND ACUTE", "O WITH TILDE AND DIAERESIS", "O WITH MACRON AND GRAVE",
      "O WITH MACRON AND ACUTE", "P WITH ACUTE", "P WITH DOT ABOVE", "R WITH DOT ABOVE",
      "R WITH DOT BELOW", "R WITH DOT BELOW AND MACRON", "R WITH LINE BELOW", "S WITH DOT ABOVE",
      "S WITH DOT BELOW", "S WITH ACUTE AND DOT ABOVE", "S WITH CARON AND DOT ABOVE",
      "S WITH DOT BELOW AND DOT ABOVE", "T WITH DOT ABOVE", "T WITH DOT BELOW", "T WITH LINE BELOW",
      "T WITH CIRCUMFLEX BELOW", "U WITH DIAERESIS BELOW", "U WITH TILDE BELOW",
      "U WITH CIRCUMFLEX BELOW", "U WITH TILDE AND ACUTE", "U WITH MACRON AND DIAERESIS",
      "V WITH TILDE", "V WITH DOT BELOW", "W WITH GRAVE", "W WITH ACUTE", "W WITH DIAERESIS",
      "W WITH DOT ABOVE", "W WITH DOT BELOW", "X WITH DOT ABOVE", "X WITH DIAERESIS",
      "Y WITH DOT ABOVE", "Z WITH CIRCUMFLEX", "Z WITH DOT BELOW", "Z WITH LINE BELOW", "SHARP S",
      "A WITH DOT BELOW", "A WITH HOOK ABOVE", "A WITH CIRCUMFLEX AND ACUTE",
      "A WITH CIRCUMFLEX AND GRAVE", "A WITH CIRCUMFLEX AND HOOK ABOVE",
      "A WITH CIRCUMFLEX AND TILDE", "A WITH CIRCUMFLEX AND DOT BELOW", "A WITH BREVE AND ACUTE",
      "A WITH BREVE AND GRAVE", "A WITH BREVE AND HOOK ABOVE", "A WITH BREVE AND TILDE",
      "A WITH BREVE AND DOT BELOW", "E WITH DOT BELOW", "E WITH HOOK ABOVE", "E WITH TILDE",
      "E WITH CIRCUMFLEX AND ACUTE", "E WITH CIRCUMFLEX AND GRAVE",
      "E WITH CIRCUMFLEX AND HOOK ABOVE", "E WITH CIRCUMFLEX AND TILDE",
      "E WITH CIRCUMFLEX AND DOT BELOW", "I WITH HOOK ABOVE", "I WITH DOT BELOW",
      "O WITH DOT BELOW", "O WITH HOOK ABOVE", "O WITH CIRCUMFLEX AND ACUTE",
      "O WITH CIRCUMFLEX AND GRAVE", "O WITH CIRCUMFLEX AND HOOK ABOVE",
      "O WITH CIRCUMFLEX AND TILDE", "O WITH CIRCUMFLEX AND DOT BELOW", "O WITH HORN AND ACUTE",
      "O WITH HORN AND GRAVE", "O WITH HORN AND HOOK ABOVE", "O WITH HORN AND TILDE",
      "O WITH HORN AND DOT BELOW", "U WITH DOT BELOW", "U WITH HOOK ABOVE", "U WITH HORN AND ACUTE",
      "U WITH HORN AND GRAVE", "U WITH HORN AND HOOK ABOVE", "U WITH HORN AND TILDE",
      "U WITH HORN AND DOT BELOW", "Y WITH GRAVE", "Y WITH DOT BELOW", "Y WITH HOOK ABOVE",
      "Y WITH TILDE", "MIDDLE-WELSH LL", "MIDDLE-WELSH V", "Y WITH LOOP", "GHA"]⟩,
    ⟨"LATIN LETTER",
      ["YR", "REVERSED ESH LOOP", "TWO WITH STROKE",
      "INVERTED GLOTTAL STOP WITH STROKE", "WYNN", "DENTAL CLICK", "LATERAL CLICK",
      "ALVEOLAR CLICK", "RETROFLEX CLICK"]⟩,
    ⟨"LATIN SMALL LETTER",
      ["A", "B", "C", "D", "E", "F", "G", "H", "I", "J", "K", "L", "M",
      "N", "O", "P", "Q", "R", "S", "T", "U", "V", "W", "X", "Y", "Z", "SHARP S", "A WITH GRAVE",
      "A WITH ACUTE", "A WITH CIRCUMFLEX", "A WITH TILDE", "A WITH DIAERESIS", "A WITH RING ABOVE",
      "AE", "C WITH CEDILLA", "E WITH GRAVE", "E WITH ACUTE", "E WITH CIRCUMFLEX",
      "E WITH DIAERESIS", "I WITH GRAVE", "I WITH ACUTE", "I WITH CIRCUMFLEX", "I WITH DIAERESIS",
      "ETH", "N WITH TILDE", "O WITH GRAVE", "O WITH ACUTE", "O WITH CIRCUMFLEX", "O WITH TILDE",
      "O WITH DIAERESIS", "O WITH STROKE", "U WITH GRAVE", "U WITH ACUTE", "U WITH CIRCUMFLEX",
      "U WITH DIAERESIS", "Y WITH ACUTE", "THORN", "Y WITH DIAERESIS", "A WITH MACRON",
      "A WITH BREVE", "A WITH OGONEK", "C WITH ACUTE", "C WITH CIRCUMFLEX", "C WITH DOT ABOVE",
      "C WITH CARON", "D WITH CARON", "D WITH STROKE", "E WITH MACRON", "E WITH BREVE",
      "E WITH DOT ABOVE", "E WITH OGONEK", "E WITH CARON", "G WITH CIRCUMFLEX", "G WITH BREVE",
      "G WITH DOT ABOVE", "G WITH CEDILLA", "H WITH CIRCUMFLEX", "H WITH STROKE", "I WITH TILDE",
      "I WITH MACRON", "I WITH BREVE", "I WITH OGONEK", "DOTLESS I", "J WITH CIRCUMFLEX",
      "K WITH CEDILLA", "KRA", "L WITH ACUTE", "L WITH CEDILLA", "L WITH CARON",
      "L WITH MIDDLE DOT", "L WITH STROKE", "N WITH ACUTE", "N WITH CEDILLA", "N WITH CARON",
      "N PRECEDED BY APOSTROPHE", "ENG", "O WITH MACRON", "O WITH BREVE", "O WITH DOUBLE ACUTE",
      "R WITH ACUTE", "R WITH CEDILLA", "R WITH CARON", "S WITH ACUTE", "S WITH CIRCUMFLEX",
      "S WITH CEDILLA", "S WITH CARON", "T WITH CEDILLA", "T WITH CARON", "T WITH STROKE",
      "U WITH TILDE", "U WITH MACRON", "U WITH BREVE", "U WITH RING ABOVE", "U WITH DOUBLE ACUTE",
      "U WITH OGONEK", "W WITH CIRCUMFLEX", "Y WITH CIRCUMFLEX", "Z WITH ACUTE", "Z WITH DOT ABOVE",
      "Z WITH CARON", "LONG S", "B WITH STROKE", "B WITH TOPBAR", "TONE SIX", "C WITH HOOK",
      "D WITH TOPBAR", "TURNED DELTA", "F WITH HOOK", "HV", "K WITH HOOK", "L WITH BAR",
      "LAMBDA WITH STROKE", "N WITH LONG RIGHT LEG", "O WITH HORN", "OI", "P WITH HOOK", "TONE TWO",
      "T WITH PALATAL HOOK", "T WITH HOOK", "U WITH HORN", "Y WITH HOOK", "Z WITH STROKE",
      "EZH REVERSED", "EZH WITH TAIL", "TONE FIVE", "DZ WITH CARON", "LJ", "NJ", "A WITH CARON",
      "I WITH CARON", "O WITH CARON", "U WITH CARON", "U WITH DIAERESIS AND MACRON",
      "U WITH DIAERESIS AND ACUTE", "U WITH DIAERESIS AND CARON", "U WITH DIAERESIS AND GRAVE",
      "TURNED E", "A WITH DIAERESIS AND MACRON", "A WITH DOT ABOVE AND MACRON", "AE WITH MACRON",
      "G WITH STROKE", "G WITH CARON", "K WITH CARON", "O WITH OGONEK", "O WITH OGONEK AND MACRON",
      "EZH WITH CARON", "J WITH CARON", "DZ", "G WITH ACUTE", "N WITH GRAVE",
      "A WITH RING ABOVE AND ACUTE", "AE WITH ACUTE", "O WITH STROKE AND ACUTE",
      "A WITH DOUBLE GRAVE", "A WITH INVERTED BREVE", "E WITH DOUBLE GRAVE",
      "E WITH INVERTED BREVE", "I WITH DOUBLE GRAVE", "I WITH INVERTED BREVE",
      "O WITH DOUBLE GRAVE", "O WITH INVERTED BREVE", "R WITH DOUBLE GRAVE",
      "R WITH INVERTED BREVE", "U WITH DOUBLE GRAVE", "U WITH INVERTED BREVE", "S WITH COMMA BELOW",
      "T WITH COMMA BELOW", "YOGH", "H WITH CARON", "D WITH CURL", "OU", "Z WITH HOOK",
      "A WITH DOT ABOVE", "E WITH CEDILLA", "O WITH DIAERESIS AND MACRON",
      "O WITH TILDE AND MACRON", "O WITH DOT ABOVE", "O WITH DOT ABOVE AND MACRON", "Y WITH MACRON",
      "L WITH CURL", "N WITH CURL", "T WITH CURL", "DOTLESS J", "DB DIGRAPH", "QP DIGRAPH",
      "C WITH STROKE", "S WITH SWASH TAIL", "Z WITH SWASH TAIL", "GLOTTAL STOP", "E WITH STROKE",
      "J WITH STROKE", "Q WITH HOOK TAIL", "R WITH STROKE", "Y WITH STROKE", "A WITH RING BELOW",
      "B WITH DOT ABOVE", "B WITH DOT BELOW", "B WITH LINE BELOW", "C WITH CEDILLA AND ACUTE",
      "D WITH DOT ABOVE", "D WITH DOT BELOW", "D WITH LINE BELOW", "D WITH CEDILLA",
      "D WITH CIRCUMFLEX BELOW", "E WITH MACRON AND GRAVE", "E WITH MACRON AND ACUTE",
      "E WITH CIRCUMFLEX BELOW", "E WITH TILDE BELOW", "E WITH CEDILLA AND BREVE",
      "F WITH DOT ABOVE", "G WITH MACRON", "H WITH DOT ABOVE", "H WITH DOT BELOW",
      "H WITH DIAERESIS", "H WITH CEDILLA", "H WITH BREVE BELOW", "I WITH TILDE BELOW",
      "I WITH DIAERESIS AND ACUTE", "K WITH ACUTE", "K WITH DOT BELOW", "K WITH LINE BELOW",
      "L WITH DOT BELOW", "L WITH DOT BELOW AND MACRON", "L WITH LINE BELOW",
      "L WITH CIRCUMFLEX BELOW", "M WITH ACUTE", "M WITH DOT ABOVE", "M WITH DOT BELOW",
      "N WITH DOT ABOVE", "N WITH DOT BELOW", "N WITH LINE BELOW", "N WITH CIRCUMFLEX BELOW",
      "O WITH TILDE AND ACUTE", "O WITH TILDE AND DIAERESIS", "O WITH MACRON AND GRAVE",
      "O WITH MACRON AND ACUTE", "P WITH ACUTE", "P WITH DOT ABOVE", "R WITH DOT ABOVE",
      "R WITH DOT BELOW", "R WITH DOT BELOW AND MACRON", "R WITH LINE BELOW", "S WITH DOT ABOVE",
      "S WITH DOT BELOW", "S WITH ACUTE AND DOT ABOVE", "S WITH CARON AND DOT ABOVE",
      "S WITH DOT BELOW AND DOT ABOVE", "T WITH DOT ABOVE", "T WITH DOT BELOW", "T WITH LINE BELOW",
      "T WITH CIRCUMFLEX BELOW", "U WITH DIAERESIS BELOW", "U WITH TILDE BELOW",
      "U WITH CIRCUMFLEX BELOW", "U WITH TILDE AND ACUTE", "U WITH MACRON AND DIAERESIS",
      "V WITH TILDE", "V WITH DOT BELOW", "W WITH GRAVE", "W WITH ACUTE", "W WITH DIAERESIS",
      "W WITH DOT ABOVE", "W WITH DOT BELOW", "X WITH DOT ABOVE", "X WITH DIAERESIS",
      "Y WITH DOT ABOVE", "Z WITH CIRCUMFLEX", "Z WITH DOT BELOW", "Z WITH LINE BELOW",
      "H WITH LINE BELOW", "T WITH DIAERESIS", "W WITH RING ABOVE", "Y WITH RING ABOVE",
      "A WITH RIGHT HALF RING", "LONG S WITH DOT ABOVE", "LONG S WITH DIAGONAL STROKE",
      "LONG S WITH HIGH STROKE", "DELTA", "A WITH DOT BELOW", "A WITH HOOK ABOVE",
      "A WITH CIRCUMFLEX AND ACUTE", "A WITH CIRCUMFLEX AND GRAVE",
      "A WITH CIRCUMFLEX AND HOOK ABOVE", "A WITH CIRCUMFLEX AND TILDE",
      "A WITH CIRCUMFLEX AND DOT BELOW", "A WITH BREVE AND ACUTE", "A WITH BREVE AND GRAVE",
      "A WITH BREVE AND HOOK ABOVE", "A WITH BREVE AND TILDE", "A WITH BREVE AND DOT BELOW",
      "E WITH DOT BELOW", "E WITH HOOK ABOVE", "E WITH TILDE", "E WITH CIRCUMFLEX AND ACUTE",
      "E WITH CIRCUMFLEX AND GRAVE", "E WITH CIRCUMFLEX AND HOOK ABOVE",
      "E WITH CIRCUMFLEX AND TILDE", "E WITH CIRCUMFLEX AND DOT BELOW", "I WITH HOOK ABOVE",
      "I WITH DOT BELOW", "O WITH DOT BELOW", "O WITH HOOK ABOVE", "O WITH CIRCUMFLEX AND ACUTE",
      "O WITH CIRCUMFLEX AND GRAVE", "O WITH CIRCUMFLEX AND HOOK ABOVE",
      "O WITH CIRCUMFLEX AND TILDE", "O WITH CIRCUMFLEX AND DOT BELOW", "O WITH HORN AND ACUTE",
      "O WITH HORN AND GRAVE", "O WITH HORN AND HOOK ABOVE", "O WITH HORN AND TILDE",
      "O WITH HORN AND DOT BELOW", "U WITH DOT BELOW", "U WITH HOOK ABOVE", "U WITH HORN AND ACUTE",
      "U WITH HORN AND GRAVE", "U WITH HORN AND HOOK ABOVE", "U WITH HORN AND TILDE",
      "U WITH HORN AND DOT BELOW", "Y WITH GRAVE", "Y WITH DOT BELOW", "Y WITH HOOK ABOVE",
      "Y WITH TILDE", "MIDDLE-WELSH LL", "MIDDLE-WELSH V", "Y WITH LOOP", "REVERSED C", "GHA"]⟩,
    ⟨"LATIN SUBSCRIPT SMALL LETTER",
      ["A", "E", "O", "X", "SCHWA", "H", "K", "L", "M", "N",
      "P", "S", "T"]⟩,
    ⟨"LEFT",
      ["PARENTHESIS", "SQUARE BRACKET", "CURLY BRACKET", "SINGLE QUOTATION MARK",
      "DOUBLE QUOTATION MARK", "SQUARE BRACKET WITH QUILL", "RIGHT ARROW", "RIGHT WAVE ARROW",
      "RIGHT ARROW WITH STROKE", "RIGHT DOUBLE ARROW WITH STROKE", "RIGHT DOUBLE ARROW",
      "RIGHT ARROW WITH VERTICAL STROKE", "RIGHT ARROW WITH DOUBLE VERTICAL STROKE",
      "RIGHT OPEN-HEADED ARROW", "TACK", "NORMAL FACTOR SEMIDIRECT PRODUCT", "SEMIDIRECT PRODUCT",
      "CEILING", "FLOOR", "PARENTHESIS UPPER HOOK", "PARENTHESIS EXTENSION",
      "PARENTHESIS LOWER HOOK", "SQUARE BRACKET UPPER CORNER", "SQUARE BRACKET EXTENSION",
      "SQUARE BRACKET LOWER CORNER", "CURLY BRACKET UPPER HOOK", "CURLY BRACKET MIDDLE PIECE",
      "CURLY BRACKET LOWER HOOK", "VERTICAL BOX LINE", "SEVEN EIGHTHS BLOCK",
      "THREE QUARTERS BLOCK", "FIVE EIGHTHS BLOCK", "HALF BLOCK", "THREE EIGHTHS BLOCK",
      "ONE QUARTER BLOCK", "ONE EIGHTH BLOCK", "HALF BLACK CIRCLE", "CLOSED ENTRY",
      "S-SHAPED BAG DELIMITER", "OUTER JOIN", "AND RIGHT DOUBLE TURNSTILE", "AND RIGHT TACK",
      "MULTIMAP", "RIGHT WHITE ARROW", "RIGHT BLACK ARROW", "ARROW WITH SMALL CIRCLE",
      "ARROW WITH CIRCLED PLUS", "ANGLE BRACKET", "DOUBLE ANGLE BRACKET", "CORNER BRACKET",
      "WHITE CORNER BRACKET", "BLACK LENTICULAR BRACKET", "TORTOISE SHELL BRACKET",
      "WHITE LENTICULAR BRACKET", "WHITE TORTOISE SHELL BRACKET", "WHITE SQUARE BRACKET",
      "HAND TELEPHONE RECEIVER", "WRITING HAND", "SPEECH BUBBLE", "THOUGHT BUBBLE", "ANGER BUBBLE",
      "LUGGAGE", "HALF CIRCLE WITH FOUR DOTS", "HALF CIRCLE WITH THREE DOTS",
      "HALF CIRCLE WITH TWO DOTS", "HALF CIRCLE WITH DOT", "HALF CIRCLE"]⟩,
    ⟨"LEFTWARDS",
      ["ARROW", "ARROW WITH STROKE", "WAVE ARROW", "TWO HEADED ARROW",
      "ARROW WITH TAIL", "ARROW FROM BAR", "ARROW WITH HOOK", "ARROW WITH LOOP",
      "ARROW TO BAR OVER RIGHTWARDS ARROW TO BAR", "HARPOON WITH BARB UPWARDS",
      "HARPOON WITH BARB DOWNWARDS", "ARROW OVER RIGHTWARDS ARROW", "PAIRED ARROWS",
      "HARPOON OVER RIGHTWARDS HARPOON", "DOUBLE ARROW WITH STROKE", "DOUBLE ARROW", "TRIPLE ARROW",
      "SQUIGGLE ARROW", "DASHED ARROW", "ARROW TO BAR", "WHITE ARROW", "ARROW WITH VERTICAL STROKE",
      "ARROW WITH DOUBLE VERTICAL STROKE", "OPEN-HEADED ARROW", "BLACK ARROW",
      "ARROW WITH TIP DOWNWARDS", "ARROW WITH TIP UPWARDS", "TWO-HEADED ARROW WITH VERTICAL STROKE",
      "TWO-HEADED ARROW WITH DOUBLE VERTICAL STROKE", "TWO-HEADED ARROW FROM BAR",
      "TWO-HEADED TRIPLE DASH ARROW", "ARROW WITH DOTTED STEM",
      "ARROW WITH TAIL WITH VERTICAL STROKE", "ARROW WITH TAIL WITH DOUBLE VERTICAL STROKE",
      "TWO-HEADED ARROW WITH TAIL", "TWO-HEADED ARROW WITH TAIL WITH VERTICAL STROKE",
      "TWO-HEADED ARROW WITH TAIL WITH DOUBLE VERTICAL STROKE", "ARROW THROUGH X",
      "ARROW ABOVE REVERSE ALMOST EQUAL TO", "QUADRUPLE ARROW", "ARROW ABOVE ALMOST EQUAL TO",
      "ARROW ABOVE REVERSE TILDE OPERATOR", "ROCKET", "HAND"]⟩,
    ⟨"LOWER",
      ["ONE EIGHTH BLOCK", "ONE QUARTER BLOCK", "THREE EIGHTHS BLOCK", "HALF BLOCK",
      "FIVE EIGHTHS BLOCK", "THREE QUARTERS BLOCK", "SEVEN EIGHTHS BLOCK",
      "HALF INVERSE WHITE CIRCLE", "RIGHT QUADRANT CIRCULAR ARC", "LEFT QUADRANT CIRCULAR ARC",
      "HALF CIRCLE", "LEFT TRIANGLE", "RIGHT TRIANGLE", "BLADE SCISSORS", "RIGHT PENCIL",
      "RIGHT DROP-SHADOWED WHITE SQUARE", "RIGHT SHADOWED WHITE SQUARE", "RIGHT CORNER WITH DOT",
      "RIGHT SHADOWED WHITE CIRCLE", "LEFT PENCIL", "LEFT BALLPOINT PEN", "LEFT FOUNTAIN PEN",
      "LEFT PAINTBRUSH", "LEFT CRAYON"]⟩,
    ⟨"MATHEMATICAL",
      ["RISING DIAGONAL", "FALLING DIAGONAL", "LEFT WHITE SQUARE BRACKET",
      "RIGHT WHITE SQUARE BRACKET", "LEFT ANGLE BRACKET", "RIGHT ANGLE BRACKET",
      "LEFT DOUBLE ANGLE BRACKET", "RIGHT DOUBLE ANGLE BRACKET",
      "LEFT WHITE TORTOISE SHELL BRACKET", "RIGHT WHITE TORTOISE SHELL BRACKET",
      "LEFT FLATTENED PARENTHESIS", "RIGHT FLATTENED PARENTHESIS"]⟩,
    ⟨"MATHEMATICAL BOLD",
      ["CAPITAL A", "CAPITAL B", "CAPITAL C", "CAPITAL D", "CAPITAL E",
      "CAPITAL F", "CAPITAL G", "CAPITAL H", "CAPITAL I", "CAPITAL J", "CAPITAL K", "CAPITAL L",
      "CAPITAL M", "CAPITAL N", "CAPITAL O", "CAPITAL P", "CAPITAL Q", "CAPITAL R", "CAPITAL S",
      "CAPITAL T", "CAPITAL U", "CAPITAL V", "CAPITAL W", "CAPITAL X", "CAPITAL Y", "CAPITAL Z",
      "SMALL A", "SMALL B", "SMALL C", "SMALL D", "SMALL E", "SMALL F", "SMALL G", "SMALL H",
      "SMALL I", "SMALL J", "SMALL K", "SMALL L", "SMALL M", "SMALL N", "SMALL O", "SMALL P",
      "SMALL Q", "SMALL R", "SMALL S", "SMALL T", "SMALL U", "SMALL V", "SMALL W", "SMALL X",
      "SMALL Y", "SMALL Z"]⟩,
    ⟨"MODIFIER LETTER",
      ["SMALL H", "SMALL H WITH HOOK", "SMALL J", "SMALL R",
      "SMALL TURNED R", "SMALL TURNED R WITH HOOK", "SMALL CAPITAL INVERTED R", "SMALL W",
      "SMALL Y", "PRIME", "DOUBLE PRIME", "TURNED COMMA", "APOSTROPHE", "REVERSED COMMA",
      "RIGHT HALF RING", "LEFT HALF RING", "GLOTTAL STOP", "REVERSED GLOTTAL STOP",
      "LEFT ARROWHEAD", "RIGHT ARROWHEAD", "UP ARROWHEAD", "DOWN ARROWHEAD", "CIRCUMFLEX ACCENT",
      "VERTICAL LINE", "MACRON", "ACUTE ACCENT", "GRAVE ACCENT", "LOW VERTICAL LINE", "LOW MACRON",
      "LOW GRAVE ACCENT", "LOW ACUTE ACCENT", "TRIANGULAR COLON", "HALF TRIANGULAR COLON",
      "CENTRED RIGHT HALF RING", "CENTRED LEFT HALF RING", "UP TACK", "DOWN TACK", "PLUS SIGN",
      "MINUS SIGN", "RHOTIC HOOK", "CROSS ACCENT", "SMALL GAMMA", "SMALL L", "SMALL S", "SMALL X",
      "SMALL REVERSED GLOTTAL STOP", "EXTRA-HIGH TONE BAR", "HIGH TONE BAR", "MID TONE BAR",
      "LOW TONE BAR", "EXTRA-LOW TONE BAR", "YIN DEPARTING TONE MARK", "YANG DEPARTING TONE MARK",
      "VOICING", "UNASPIRATED", "DOUBLE APOSTROPHE", "LOW DOWN ARROWHEAD", "LOW UP ARROWHEAD",
      "LOW LEFT ARROWHEAD", "LOW RIGHT ARROWHEAD", "LOW RING", "MIDDLE GRAVE ACCENT",
      "MIDDLE DOUBLE GRAVE ACCENT", "MIDDLE DOUBLE ACUTE ACCENT", "LOW TILDE", "RAISED COLON",
      "BEGIN HIGH TONE", "END HIGH TONE", "BEGIN LOW TONE", "END LOW TONE", "SHELF", "OPEN SHELF",
      "LOW LEFT ARROW"]⟩,
    ⟨"NEGATIVE CIRCLED NUMBER",
      ["ELEVEN", "TWELVE", "THIRTEEN", "FOURTEEN", "FIFTEEN",
      "SIXTEEN", "SEVENTEEN", "EIGHTEEN", "NINETEEN", "TWENTY"]⟩,
    ⟨"PARENTHESIZED",
      ["DIGIT ONE", "DIGIT TWO", "DIGIT THREE", "DIGIT FOUR", "DIGIT FIVE",
      "DIGIT SIX", "DIGIT SEVEN", "DIGIT EIGHT", "DIGIT NINE", "NUMBER TEN", "NUMBER ELEVEN",
      "NUMBER TWELVE", "NUMBER THIRTEEN", "NUMBER FOURTEEN", "NUMBER FIFTEEN", "NUMBER SIXTEEN",
      "NUMBER SEVENTEEN", "NUMBER EIGHTEEN", "NUMBER NINETEEN", "NUMBER TWENTY"]⟩,
    ⟨"PARENTHESIZED LATIN SMALL LETTER",
      ["A", "B", "C", "D", "E", "F", "G", "H", "I", "J",
      "K", "L", "M", "N", "O", "P", "Q", "R", "S", "T", "U", "V", "W", "X", "Y", "Z"]⟩,
    ⟨"QUADRANT UPPER",
      ["LEFT", "LEFT AND LOWER LEFT AND LOWER RIGHT", "LEFT AND LOWER RIGHT",
      "LEFT AND UPPER RIGHT AND LOWER LEFT", "LEFT AND UPPER RIGHT AND LOWER RIGHT", "RIGHT",
      "RIGHT AND LOWER LEFT", "RIGHT AND LOWER LEFT AND LOWER RIGHT"]⟩,
    ⟨"RECYCLING SYMBOL FOR",
      ["TYPE-1 PLASTICS", "TYPE-2 PLASTICS", "TYPE-3 PLASTICS",
      "TYPE-4 PLASTICS", "TYPE-5 PLASTICS", "TYPE-6 PLASTICS", "TYPE-7 PLASTICS",
      "GENERIC MATERIALS"]⟩,
    ⟨"REGIONAL INDICATOR SYMBOL LETTER",
      ["A", "B", "C", "D", "E", "F", "G", "H", "I", "J",
      "K", "L", "M", "N", "O", "P", "Q", "R", "S", "T", "U", "V", "W", "X", "Y", "Z"]⟩,
    ⟨"REVERSED",
      ["PRIME", "DOUBLE PRIME", "TRIPLE PRIME", "PILCROW SIGN", "SEMICOLON",
      "SANS-SERIF CAPITAL L", "TILDE", "TILDE EQUALS", "NOT SIGN", "ROTATED FLORAL HEART BULLET",
      "DOUBLE PRIME QUOTATION MARK", "RAISED HAND WITH FINGERS SPLAYED", "THUMBS UP SIGN",
      "THUMBS DOWN SIGN", "VICTORY HAND", "HAND WITH MIDDLE FINGER EXTENDED"]⟩,
    ⟨"RIGHT",
      ["PARENTHESIS", "SQUARE BRACKET", "CURLY BRACKET", "SINGLE QUOTATION MARK",
      "DOUBLE QUOTATION MARK", "SQUARE BRACKET WITH QUILL", "ARROW WITH SMALL CIRCLE", "ANGLE",
      "TACK", "ANGLE WITH ARC", "TRIANGLE", "NORMAL FACTOR SEMIDIRECT PRODUCT",
      "SEMIDIRECT PRODUCT", "CEILING", "FLOOR", "ANGLE WITH DOWNWARDS ZIGZAG ARROW",
      "PARENTHESIS UPPER HOOK", "PARENTHESIS EXTENSION", "PARENTHESIS LOWER HOOK",
      "SQUARE BRACKET UPPER CORNER", "SQUARE BRACKET EXTENSION", "SQUARE BRACKET LOWER CORNER",
      "CURLY BRACKET UPPER HOOK", "CURLY BRACKET MIDDLE PIECE", "CURLY BRACKET LOWER HOOK",
      "VERTICAL BOX LINE", "HALF BLOCK", "ONE EIGHTH BLOCK", "HALF BLACK CIRCLE",
      "S-SHAPED BAG DELIMITER", "OUTER JOIN", "ARROW WITH CIRCLED PLUS", "ANGLE BRACKET",
      "DOUBLE ANGLE BRACKET", "CORNER BRACKET", "WHITE CORNER BRACKET", "BLACK LENTICULAR BRACKET",
      "TORTOISE SHELL BRACKET", "WHITE LENTICULAR BRACKET", "WHITE TORTOISE SHELL BRACKET",
      "WHITE SQUARE BRACKET", "SPEAKER", "SPEAKER WITH ONE SOUND WAVE",
      "SPEAKER WITH THREE SOUND WAVES", "HAND TELEPHONE RECEIVER", "SPEECH BUBBLE",
      "THOUGHT BUBBLE", "ANGER BUBBLE"]⟩,
    ⟨"RIGHTWARDS",
      ["ARROW", "ARROW WITH STROKE", "WAVE ARROW", "TWO HEADED ARROW",
      "ARROW WITH TAIL", "ARROW FROM BAR", "ARROW WITH HOOK", "ARROW WITH LOOP",
      "ARROW WITH CORNER DOWNWARDS", "HARPOON WITH BARB UPWARDS", "HARPOON WITH BARB DOWNWARDS",
      "ARROW OVER LEFTWARDS ARROW", "PAIRED ARROWS", "HARPOON OVER LEFTWARDS HARPOON",
      "DOUBLE ARROW WITH STROKE", "DOUBLE ARROW", "TRIPLE ARROW", "SQUIGGLE ARROW", "DASHED ARROW",
      "ARROW TO BAR", "WHITE ARROW", "WHITE ARROW FROM WALL", "ARROW WITH VERTICAL STROKE",
      "ARROW WITH DOUBLE VERTICAL STROKE", "OPEN-HEADED ARROW", "ARROW WITH TIP DOWNWARDS",
      "ARROW WITH TIP UPWARDS", "ARROW THROUGH GREATER-THAN", "ARROW THROUGH SUPERSET",
      "QUADRUPLE ARROW", "ARROW ABOVE REVERSE ALMOST EQUAL TO",
      "ARROW ABOVE REVERSE TILDE OPERATOR", "ROCKET", "HAND"]⟩,
    ⟨"ROMAN NUMERAL",
      ["ONE", "TWO", "THREE", "FOUR", "FIVE", "SIX", "SEVEN", "EIGHT", "NINE",
      "TEN", "ELEVEN", "TWELVE", "FIFTY", "ONE HUNDRED", "FIVE HUNDRED", "ONE THOUSAND",
      "ONE THOUSAND C D", "FIVE THOUSAND", "TEN THOUSAND", "REVERSED ONE HUNDRED", "SIX LATE FORM",
      "FIFTY EARLY FORM", "FIFTY THOUSAND", "ONE HUNDRED THOUSAND"]⟩,
    ⟨"SCRIPT CAPITAL",
      ["H", "I", "L", "P", "R", "B", "E", "F", "M"]⟩,
    ⟨"SMALL ROMAN NUMERAL",
      ["ONE", "TWO", "THREE", "FOUR", "FIVE", "SIX", "SEVEN", "EIGHT",
      "NINE", "TEN", "ELEVEN", "TWELVE", "FIFTY", "ONE HUNDRED", "FIVE HUNDRED", "ONE THOUSAND"]⟩,
    ⟨"SMILING FACE WITH",
      ["OPEN MOUTH", "OPEN MOUTH AND SMILING EYES",
      "OPEN MOUTH AND COLD SWEAT", "OPEN MOUTH AND TIGHTLY-CLOSED EYES", "HALO", "HORNS",
      "SMILING EYES", "HEART-SHAPED EYES", "SUNGLASSES", "SMILING EYES AND HAND COVERING MOUTH",
      "SMILING EYES AND THREE HEARTS", "TEAR"]⟩,
    ⟨"SQUARE WITH",
      ["HORIZONTAL FILL", "VERTICAL FILL", "ORTHOGONAL CROSSHATCH FILL",
      "UPPER LEFT TO LOWER RIGHT FILL", "UPPER RIGHT TO LOWER LEFT FILL",
      "DIAGONAL CROSSHATCH FILL", "LEFT HALF BLACK", "RIGHT HALF BLACK",
      "UPPER LEFT DIAGONAL HALF BLACK", "LOWER RIGHT DIAGONAL HALF BLACK", "TOP HALF BLACK",
      "BOTTOM HALF BLACK", "UPPER RIGHT DIAGONAL HALF BLACK", "LOWER LEFT DIAGONAL HALF BLACK"]⟩,
    ⟨"SUBSCRIPT",
      ["ZERO", "ONE", "TWO", "THREE", "FOUR", "FIVE", "SIX", "SEVEN", "EIGHT",
      "NINE", "PLUS SIGN", "MINUS", "EQUALS SIGN", "LEFT PARENTHESIS", "RIGHT PARENTHESIS"]⟩,
    ⟨"SUPERSCRIPT",
      ["TWO", "THREE", "ONE", "ZERO", "LATIN SMALL LETTER I", "FOUR", "FIVE",
      "SIX", "SEVEN", "EIGHT", "NINE", "PLUS SIGN", "MINUS", "EQUALS SIGN", "LEFT PARENTHESIS",
      "RIGHT PARENTHESIS", "LATIN SMALL LETTER N"]⟩,
    ⟨"SYMBOL FOR",
      ["SAMARITAN SOURCE", "NULL", "START OF HEADING", "START OF TEXT",
      "END OF TEXT", "END OF TRANSMISSION", "ENQUIRY", "ACKNOWLEDGE", "BELL", "BACKSPACE",
      "HORIZONTAL TABULATION", "LINE FEED", "VERTICAL TABULATION", "FORM FEED", "CARRIAGE RETURN",
      "SHIFT OUT", "SHIFT IN", "DATA LINK ESCAPE", "DEVICE CONTROL ONE", "DEVICE CONTROL TWO",
      "DEVICE CONTROL THREE", "DEVICE CONTROL FOUR", "NEGATIVE ACKNOWLEDGE", "SYNCHRONOUS IDLE",
      "END OF TRANSMISSION BLOCK", "CANCEL", "END OF MEDIUM", "SUBSTITUTE", "ESCAPE",
      "FILE SEPARATOR", "GROUP SEPARATOR", "RECORD SEPARATOR", "UNIT SEPARATOR", "SPACE", "DELETE",
      "NEWLINE", "DELETE FORM TWO", "SUBSTITUTE FORM TWO", "MARKS CHAPTER"]⟩,
    ⟨"THAI CHARACTER",
      ["KO KAI", "KHO KHAI", "KHO KHUAT", "KHO KHWAI", "KHO KHON",
      "KHO RAKHANG", "NGO NGU", "CHO CHAN", "CHO CHING", "CHO CHANG", "SO SO", "CHO CHOE",
      "YO YING", "DO CHADA", "TO PATAK", "THO THAN", "THO NANGMONTHO", "THO PHUTHAO", "NO NEN",
      "DO DEK", "TO TAO", "THO THUNG", "THO THAHAN", "THO THONG", "NO NU", "BO BAIMAI", "PO PLA",
      "PHO PHUNG", "FO FA", "PHO PHAN", "FO FAN", "PHO SAMPHAO", "MO MA", "YO YAK", "RO RUA", "RU",
      "LO LING", "LU", "WO WAEN", "SO SALA", "SO RUSI", "SO SUA", "HO HIP", "LO CHULA", "O ANG",
      "HO NOKHUK", "PAIYANNOI", "SARA A", "MAI HAN-AKAT", "SARA AA", "SARA AM", "SARA I", "SARA II",
      "SARA UE", "SARA UEE", "SARA U", "SARA UU", "PHINTHU"]⟩,
    ⟨"TURNED",
      ["GREEK SMALL LETTER IOTA", "CAPITAL F", "SANS-SERIF CAPITAL G",
      "SANS-SERIF CAPITAL L", "SANS-SERIF CAPITAL Y", "AMPERSAND", "SMALL F", "DIGIT TWO",
      "DIGIT THREE", "NOT SIGN", "WHITE SHOGI PIECE", "BLACK SHOGI PIECE", "OK HAND SIGN",
      "NORTH WEST POINTING LEAF", "SOUTH WEST POINTING LEAF", "NORTH EAST POINTING LEAF",
      "SOUTH EAST POINTING LEAF"]⟩,
    ⟨"UPWARDS",
      ["ARROW", "TWO HEADED ARROW", "ARROW FROM BAR", "ARROW WITH TIP LEFTWARDS",
      "ARROW WITH TIP RIGHTWARDS", "HARPOON WITH BARB RIGHTWARDS", "HARPOON WITH BARB LEFTWARDS",
      "ARROW LEFTWARDS OF DOWNWARDS ARROW", "PAIRED ARROWS", "DOUBLE ARROW",
      "ARROW WITH DOUBLE STROKE", "DASHED ARROW", "WHITE ARROW", "WHITE ARROW FROM BAR",
      "WHITE ARROW ON PEDESTAL", "WHITE ARROW ON PEDESTAL WITH HORIZONTAL BAR",
      "WHITE ARROW ON PEDESTAL WITH VERTICAL BAR", "WHITE DOUBLE ARROW",
      "WHITE DOUBLE ARROW ON PEDESTAL", "QUADRUPLE ARROW", "BLACK ARROW", "ROCKET"]⟩,
    ⟨"VARIATION",
      ["SELECTOR-1", "SELECTOR-2", "SELECTOR-3", "SELECTOR-4", "SELECTOR-5",
      "SELECTOR-6", "SELECTOR-7", "SELECTOR-8", "SELECTOR-9", "SELECTOR-10", "SELECTOR-11",
      "SELECTOR-12", "SELECTOR-13", "SELECTOR-14", "SELECTOR-15", "SELECTOR-16"]⟩,
    ⟨"VULGAR FRACTION",
      ["ONE QUARTER", "ONE HALF", "THREE QUARTERS", "ONE SEVENTH",
      "ONE NINTH", "ONE TENTH", "ONE THIRD", "TWO THIRDS", "ONE FIFTH", "TWO FIFTHS",
      "THREE FIFTHS", "FOUR FIFTHS", "ONE SIXTH", "FIVE SIXTHS", "ONE EIGHTH", "THREE EIGHTHS",
      "FIVE EIGHTHS", "SEVEN EIGHTHS", "ZERO THIRDS"]⟩,
    ⟨"WHITE",
      ["SQUARE WITH CENTRE VERTICAL LINE", "TRAPEZIUM", "SQUARE",
      "SQUARE WITH ROUNDED CORNERS", "SQUARE CONTAINING BLACK SMALL SQUARE", "SMALL SQUARE",
      "RECTANGLE", "VERTICAL RECTANGLE", "PARALLELOGRAM", "UP-POINTING TRIANGLE",
      "UP-POINTING SMALL TRIANGLE", "RIGHT-POINTING TRIANGLE", "RIGHT-POINTING SMALL TRIANGLE",
      "RIGHT-POINTING POINTER", "DOWN-POINTING TRIANGLE", "DOWN-POINTING SMALL TRIANGLE",
      "LEFT-POINTING TRIANGLE", "LEFT-POINTING SMALL TRIANGLE", "LEFT-POINTING POINTER", "DIAMOND",
      "DIAMOND CONTAINING BLACK SMALL DIAMOND", "CIRCLE", "BULLET",
      "SQUARE WITH VERTICAL BISECTING LINE", "UP-POINTING TRIANGLE WITH DOT",
      "SQUARE WITH UPPER LEFT QUADRANT", "SQUARE WITH LOWER LEFT QUADRANT",
      "SQUARE WITH LOWER RIGHT QUADRANT", "SQUARE WITH UPPER RIGHT QUADRANT",
      "CIRCLE WITH UPPER LEFT QUADRANT", "CIRCLE WITH LOWER LEFT QUADRANT",
      "CIRCLE WITH LOWER RIGHT QUADRANT", "CIRCLE WITH UPPER RIGHT QUADRANT", "MEDIUM SQUARE",
      "MEDIUM SMALL SQUARE", "STAR", "TELEPHONE", "SHOGI PIECE", "LEFT POINTING INDEX",
      "UP POINTING INDEX", "RIGHT POINTING INDEX", "DOWN POINTING INDEX", "FROWNING FACE",
      "SMILING FACE", "SUN WITH RAYS", "CHESS KING", "CHESS QUEEN", "CHESS ROOK", "CHESS BISHOP",
      "CHESS KNIGHT", "CHESS PAWN", "HEART SUIT", "DIAMOND SUIT", "SPADE SUIT", "CLUB SUIT",
      "CIRCLE WITH DOT RIGHT", "CIRCLE WITH TWO DOTS", "FLAG", "DRAUGHTS MAN", "DRAUGHTS KING",
      "DIAMOND IN SQUARE", "TWO-WAY LEFT WAY TRAFFIC", "LEFT LANE MERGE",
      "FLAG WITH HORIZONTAL MIDDLE BLACK STRIPE", "SCISSORS", "HEAVY CHECK MARK", "NIB",
      "FOUR POINTED STAR", "FLORETTE", "QUESTION MARK ORNAMENT", "EXCLAMATION MARK ORNAMENT",
      "TRIANGLE CONTAINING SMALL WHITE TRIANGLE", "DIAMOND WITH CENTRED DOT",
      "CONCAVE-SIDED DIAMOND", "CONCAVE-SIDED DIAMOND WITH LEFTWARDS TICK",
      "CONCAVE-SIDED DIAMOND WITH RIGHTWARDS TICK", "SQUARE WITH LEFTWARDS TICK",
      "SQUARE WITH RIGHTWARDS TICK", "LARGE SQUARE", "VERY SMALL SQUARE", "PENTAGON", "HEXAGON",
      "MEDIUM DIAMOND", "MEDIUM LOZENGE", "SMALL LOZENGE", "HORIZONTAL ELLIPSE", "VERTICAL ELLIPSE",
      "MEDIUM STAR", "SMALL STAR", "RIGHT-POINTING PENTAGON", "SUN", "SUN WITH SMALL CLOUD",
      "SUN BEHIND CLOUD", "SUN BEHIND CLOUD WITH RAIN", "PENNANT", "UP POINTING BACKHAND INDEX",
      "DOWN POINTING BACKHAND INDEX", "LEFT POINTING BACKHAND INDEX",
      "RIGHT POINTING BACKHAND INDEX", "FLOWER", "SQUARE BUTTON", "LATIN CROSS",
      "TOUCHTONE TELEPHONE", "DOWN POINTING LEFT HAND INDEX", "HARD SHELL FLOPPY DISK", "HEART"]⟩]

def singleNames : List String :=
  ["SPACE", "EXCLAMATION MARK", "QUOTATION MARK", "NUMBER SIGN", "DOLLAR SIGN", "PERCENT SIGN",
    "AMPERSAND", "APOSTROPHE", "ASTERISK", "PLUS SIGN", "COMMA", "HYPHEN-MINUS", "FULL STOP",
    "SOLIDUS", "COLON", "SEMICOLON", "LESS-THAN SIGN", "EQUALS SIGN", "QUESTION MARK",
    "COMMERCIAL AT", "REVERSE SOLIDUS", "CIRCUMFLEX ACCENT", "LOW LINE", "GRAVE ACCENT",
    "VERTICAL LINE", "TILDE", "NO-BREAK SPACE", "INVERTED EXCLAMATION MARK", "CENT SIGN",
    "POUND SIGN", "CURRENCY SIGN", "YEN SIGN", "BROKEN BAR", "SECTION SIGN", "DIAERESIS",
    "COPYRIGHT SIGN", "FEMININE ORDINAL INDICATOR", "LEFT-POINTING DOUBLE ANGLE QUOTATION MARK",
    "NOT SIGN", "SOFT HYPHEN", "REGISTERED SIGN", "MACRON", "DEGREE SIGN", "PLUS-MINUS SIGN",
    "ACUTE ACCENT", "MICRO SIGN", "PILCROW SIGN", "MIDDLE DOT", "CEDILLA",
    "MASCULINE ORDINAL INDICATOR", "RIGHT-POINTING DOUBLE ANGLE QUOTATION MARK",
    "INVERTED QUESTION MARK", "MULTIPLICATION SIGN", "DIVISION SIGN", "LATIN CAPITAL LIGATURE IJ",
    "LATIN SMALL LIGATURE IJ", "LATIN CAPITAL LIGATURE OE", "LATIN SMALL LIGATURE OE", "CARON",
    "BREVE", "DOT ABOVE", "RING ABOVE", "OGONEK", "SMALL TILDE", "CYRILLIC THOUSANDS SIGN",
    "CYRILLIC CAPITAL LIGATURE EN GHE", "CYRILLIC SMALL LIGATURE EN GHE",
    "CYRILLIC CAPITAL LIGATURE TE TSE", "CYRILLIC SMALL LIGATURE TE TSE",
    "CYRILLIC LETTER PALOCHKA", "CYRILLIC CAPITAL LIGATURE A IE", "CYRILLIC SMALL LIGATURE A IE",
    "HEBREW PUNCTUATION MAQAF", "HEBREW POINT RAFE", "HEBREW PUNCTUATION PASEQ",
    "HEBREW POINT SHIN DOT", "HEBREW POINT SIN DOT", "HEBREW PUNCTUATION SOF PASUQ",
    "HEBREW MARK UPPER DOT", "HEBREW MARK LOWER DOT", "HEBREW PUNCTUATION NUN HAFUKHA",
    "HEBREW POINT QAMATS QATAN", "ARABIC-INDIC CUBE ROOT", "ARABIC-INDIC FOURTH ROOT",
    "ARABIC-INDIC PER MILLE SIGN", "ARABIC-INDIC PER TEN THOUSAND SIGN", "AFGHANI SIGN", "EN QUAD",
    "EM QUAD", "EN SPACE", "EM SPACE", "THREE-PER-EM SPACE", "FOUR-PER-EM SPACE",
    "SIX-PER-EM SPACE", "FIGURE SPACE", "PUNCTUATION SPACE", "THIN SPACE", "HAIR SPACE",
    "ZERO WIDTH SPACE", "ZERO WIDTH NON-JOINER", "ZERO WIDTH JOINER", "LEFT-TO-RIGHT MARK",
    "RIGHT-TO-LEFT MARK", "HYPHEN", "NON-BREAKING HYPHEN", "FIGURE DASH", "EN DASH", "EM DASH",
    "SINGLE LOW-9 QUOTATION MARK", "SINGLE HIGH-REVERSED-9 QUOTATION MARK", "DAGGER", "BULLET",
    "TRIANGULAR BULLET", "ONE DOT LEADER", "TWO DOT LEADER", "HYPHENATION POINT", "LINE SEPARATOR",
    "PARAGRAPH SEPARATOR", "LEFT-TO-RIGHT EMBEDDING", "RIGHT-TO-LEFT EMBEDDING",
    "POP DIRECTIONAL FORMATTING", "LEFT-TO-RIGHT OVERRIDE", "RIGHT-TO-LEFT OVERRIDE",
    "NARROW NO-BREAK SPACE", "PER MILLE SIGN", "PER TEN THOUSAND SIGN", "PRIME", "TRIPLE PRIME",
    "CARET", "SINGLE LEFT-POINTING ANGLE QUOTATION MARK",
    "SINGLE RIGHT-POINTING ANGLE QUOTATION MARK", "REFERENCE MARK", "INTERROBANG", "OVERLINE",
    "UNDERTIE", "CHARACTER TIE", "CARET INSERTION POINT", "ASTERISM", "HYPHEN BULLET",
    "FRACTION SLASH", "QUESTION EXCLAMATION MARK", "EXCLAMATION QUESTION MARK", "TIRONIAN SIGN ET",
    "LOW ASTERISK", "CLOSE UP", "TWO ASTERISKS ALIGNED VERTICALLY", "COMMERCIAL MINUS SIGN",
    "SWUNG DASH", "INVERTED UNDERTIE", "FLOWER PUNCTUATION MARK", "THREE DOT PUNCTUATION",
    "QUADRUPLE PRIME", "FOUR DOT PUNCTUATION", "FIVE DOT PUNCTUATION", "TWO DOT PUNCTUATION",
    "FOUR DOT MARK", "DOTTED CROSS", "TRICOLON", "VERTICAL FOUR DOTS", "MEDIUM MATHEMATICAL SPACE",
    "WORD JOINER", "FUNCTION APPLICATION", "INVISIBLE TIMES", "INVISIBLE SEPARATOR",
    "INVISIBLE PLUS", "LEFT-TO-RIGHT ISOLATE", "RIGHT-TO-LEFT ISOLATE", "FIRST STRONG ISOLATE",
    "POP DIRECTIONAL ISOLATE", "INHIBIT SYMMETRIC SWAPPING", "ACTIVATE SYMMETRIC SWAPPING",
    "INHIBIT ARABIC FORM SHAPING", "ACTIVATE ARABIC FORM SHAPING", "NATIONAL DIGIT SHAPES",
    "NOMINAL DIGIT SHAPES", "EURO-CURRENCY SIGN", "COLON SIGN", "CRUZEIRO SIGN",
    "FRENCH FRANC SIGN", "LIRA SIGN", "MILL SIGN", "NAIRA SIGN", "PESETA SIGN", "RUPEE SIGN",
    "WON SIGN", "NEW SHEQEL SIGN", "DONG SIGN", "EURO SIGN", "KIP SIGN", "TUGRIK SIGN",
    "DRACHMA SIGN", "GERMAN PENNY SIGN", "PESO SIGN", "GUARANI SIGN", "AUSTRAL SIGN",
    "HRYVNIA SIGN", "CEDI SIGN", "LIVRE TOURNOIS SIGN", "SPESMILO SIGN", "TENGE SIGN",
    "INDIAN RUPEE SIGN", "TURKISH LIRA SIGN", "NORDIC MARK SIGN", "MANAT SIGN", "RUBLE SIGN",
    "LARI SIGN", "BITCOIN SIGN", "ACCOUNT OF", "ADDRESSED TO THE SUBJECT", "DEGREE CELSIUS",
    "CENTRE LINE SYMBOL", "CARE OF", "CADA UNA", "EULER CONSTANT", "SCRUPLE", "DEGREE FAHRENHEIT",
    "SCRIPT SMALL G", "BLACK-LETTER CAPITAL H", "PLANCK CONSTANT", "PLANCK CONSTANT OVER TWO PI",
    "BLACK-LETTER CAPITAL I", "SCRIPT SMALL L", "L B BAR SYMBOL", "NUMERO SIGN",
    "SOUND RECORDING COPYRIGHT", "BLACK-LETTER CAPITAL R", "PRESCRIPTION TAKE", "RESPONSE",
    "SERVICE MARK", "TELEPHONE SIGN", "TRADE MARK SIGN", "VERSICLE", "OUNCE SIGN", "OHM SIGN",
    "INVERTED OHM SIGN", "BLACK-LETTER CAPITAL Z", "KELVIN SIGN", "ANGSTROM SIGN",
    "BLACK-LETTER CAPITAL C", "ESTIMATED SYMBOL", "SCRIPT SMALL E", "SCRIPT SMALL O", "ALEF SYMBOL",
    "BET SYMBOL", "GIMEL SYMBOL", "DALET SYMBOL", "INFORMATION SOURCE", "ROTATED CAPITAL Q",
    "FACSIMILE SIGN", "PROPERTY LINE", "PER SIGN", "AKTIESELSKAB", "FRACTION NUMERATOR ONE",
    "UP DOWN ARROW", "NORTH WEST ARROW", "NORTH EAST ARROW", "SOUTH EAST ARROW", "SOUTH WEST ARROW",
    "UP DOWN ARROW WITH BASE", "ANTICLOCKWISE TOP SEMICIRCLE ARROW",
    "CLOCKWISE TOP SEMICIRCLE ARROW", "NORTH WEST ARROW TO LONG BAR",
    "ANTICLOCKWISE OPEN CIRCLE ARROW", "CLOCKWISE OPEN CIRCLE ARROW", "UP DOWN DOUBLE ARROW",
    "NORTH WEST DOUBLE ARROW", "NORTH EAST DOUBLE ARROW", "SOUTH EAST DOUBLE ARROW",
    "SOUTH WEST DOUBLE ARROW", "NORTH WEST ARROW TO CORNER", "SOUTH EAST ARROW TO CORNER",
    "UP DOWN WHITE ARROW", "THREE RIGHTWARDS ARROWS", "FOR ALL", "COMPLEMENT",
    "PARTIAL DIFFERENTIAL", "THERE EXISTS", "THERE DOES NOT EXIST", "EMPTY SET", "INCREMENT",
    "NABLA", "ELEMENT OF", "NOT AN ELEMENT OF", "SMALL ELEMENT OF", "CONTAINS AS MEMBER",
    "DOES NOT CONTAIN AS MEMBER", "SMALL CONTAINS AS MEMBER", "END OF PROOF", "N-ARY PRODUCT",
    "N-ARY COPRODUCT", "N-ARY SUMMATION", "MINUS SIGN", "MINUS-OR-PLUS SIGN", "DOT PLUS",
    "DIVISION SLASH", "SET MINUS", "ASTERISK OPERATOR", "RING OPERATOR", "BULLET OPERATOR",
    "SQUARE ROOT", "CUBE ROOT", "FOURTH ROOT", "PROPORTIONAL TO", "INFINITY", "ANGLE",
    "MEASURED ANGLE", "SPHERICAL ANGLE", "DIVIDES", "DOES NOT DIVIDE", "PARALLEL TO",
    "NOT PARALLEL TO", "LOGICAL AND", "LOGICAL OR", "INTERSECTION", "UNION", "INTEGRAL",
    "TRIPLE INTEGRAL", "CONTOUR INTEGRAL", "SURFACE INTEGRAL", "VOLUME INTEGRAL",
    "CLOCKWISE INTEGRAL", "CLOCKWISE CONTOUR INTEGRAL", "ANTICLOCKWISE CONTOUR INTEGRAL",
    "THEREFORE", "BECAUSE", "RATIO", "PROPORTION", "DOT MINUS", "EXCESS", "GEOMETRIC PROPORTION",
    "HOMOTHETIC", "TILDE OPERATOR", "INVERTED LAZY S", "SINE WAVE", "WREATH PRODUCT", "NOT TILDE",
    "MINUS TILDE", "ASYMPTOTICALLY EQUAL TO", "NOT ASYMPTOTICALLY EQUAL TO",
    "APPROXIMATELY EQUAL TO", "APPROXIMATELY BUT NOT ACTUALLY EQUAL TO",
    "NEITHER APPROXIMATELY NOR ACTUALLY EQUAL TO", "ALMOST EQUAL TO", "NOT ALMOST EQUAL TO",
    "ALMOST EQUAL OR EQUAL TO", "TRIPLE TILDE", "ALL EQUAL TO", "EQUIVALENT TO",
    "GEOMETRICALLY EQUIVALENT TO", "DIFFERENCE BETWEEN", "APPROACHES THE LIMIT",
    "GEOMETRICALLY EQUAL TO", "APPROXIMATELY EQUAL TO OR THE IMAGE OF",
    "IMAGE OF OR APPROXIMATELY EQUAL TO", "COLON EQUALS", "EQUALS COLON", "RING IN EQUAL TO",
    "RING EQUAL TO", "CORRESPONDS TO", "ESTIMATES", "EQUIANGULAR TO", "STAR EQUALS",
    "DELTA EQUAL TO", "EQUAL TO BY DEFINITION", "MEASURED BY", "QUESTIONED EQUAL TO",
    "NOT EQUAL TO", "IDENTICAL TO", "NOT IDENTICAL TO", "STRICTLY EQUIVALENT TO",
    "LESS-THAN OR EQUAL TO", "LESS-THAN OVER EQUAL TO", "LESS-THAN BUT NOT EQUAL TO",
    "MUCH LESS-THAN", "MUCH GREATER-THAN", "BETWEEN", "NOT EQUIVALENT TO", "NOT LESS-THAN",
    "NOT GREATER-THAN", "NEITHER LESS-THAN NOR EQUAL TO", "NEITHER GREATER-THAN NOR EQUAL TO",
    "LESS-THAN OR EQUIVALENT TO", "NEITHER LESS-THAN NOR EQUIVALENT TO",
    "NEITHER GREATER-THAN NOR EQUIVALENT TO", "LESS-THAN OR GREATER-THAN",
    "NEITHER LESS-THAN NOR GREATER-THAN", "NEITHER GREATER-THAN NOR LESS-THAN", "PRECEDES",
    "SUCCEEDS", "PRECEDES OR EQUAL TO", "SUCCEEDS OR EQUAL TO", "PRECEDES OR EQUIVALENT TO",
    "SUCCEEDS OR EQUIVALENT TO", "DOES NOT PRECEDE", "DOES NOT SUCCEED", "SUBSET OF", "SUPERSET OF",
    "NOT A SUBSET OF", "NOT A SUPERSET OF", "SUBSET OF OR EQUAL TO", "SUPERSET OF OR EQUAL TO",
    "NEITHER A SUBSET OF NOR EQUAL TO", "NEITHER A SUPERSET OF NOR EQUAL TO",
    "SUBSET OF WITH NOT EQUAL TO", "SUPERSET OF WITH NOT EQUAL TO", "MULTISET",
    "MULTISET MULTIPLICATION", "MULTISET UNION", "SQUARE IMAGE OF", "SQUARE IMAGE OF OR EQUAL TO",
    "SQUARE CAP", "SQUARE CUP", "SQUARED PLUS", "SQUARED MINUS", "SQUARED TIMES",
    "SQUARED DOT OPERATOR", "DOWN TACK", "UP TACK", "ASSERTION", "MODELS", "TRUE", "FORCES",
    "TRIPLE VERTICAL BAR RIGHT TURNSTILE", "DOES NOT PROVE", "NOT TRUE", "DOES NOT FORCE",
    "NEGATED DOUBLE VERTICAL BAR DOUBLE RIGHT TURNSTILE", "PRECEDES UNDER RELATION",
    "SUCCEEDS UNDER RELATION", "NORMAL SUBGROUP OF", "CONTAINS AS NORMAL SUBGROUP",
    "NORMAL SUBGROUP OF OR EQUAL TO", "CONTAINS AS NORMAL SUBGROUP OR EQUAL TO", "IMAGE OF",
    "MULTIMAP", "HERMITIAN CONJUGATE MATRIX", "INTERCALATE", "XOR", "NAND", "NOR",
    "N-ARY LOGICAL AND", "N-ARY LOGICAL OR", "N-ARY INTERSECTION", "N-ARY UNION",
    "DIAMOND OPERATOR", "DOT OPERATOR", "STAR OPERATOR", "DIVISION TIMES", "BOWTIE",
    "CURLY LOGICAL OR", "CURLY LOGICAL AND", "PITCHFORK", "EQUAL AND PARALLEL TO",
    "LESS-THAN WITH DOT", "VERY MUCH LESS-THAN", "VERY MUCH GREATER-THAN",
    "LESS-THAN EQUAL TO OR GREATER-THAN", "EQUAL TO OR LESS-THAN", "EQUAL TO OR GREATER-THAN",
    "EQUAL TO OR PRECEDES", "EQUAL TO OR SUCCEEDS", "DOES NOT PRECEDE OR EQUAL",
    "DOES NOT SUCCEED OR EQUAL", "NOT SQUARE IMAGE OF OR EQUAL TO",
    "SQUARE IMAGE OF OR NOT EQUAL TO", "LESS-THAN BUT NOT EQUIVALENT TO",
    "PRECEDES BUT NOT EQUIVALENT TO", "SUCCEEDS BUT NOT EQUIVALENT TO", "NOT NORMAL SUBGROUP OF",
    "DOES NOT CONTAIN AS NORMAL SUBGROUP", "NOT NORMAL SUBGROUP OF OR EQUAL TO",
    "DOES NOT CONTAIN AS NORMAL SUBGROUP OR EQUAL", "VERTICAL ELLIPSIS",
    "MIDLINE HORIZONTAL ELLIPSIS", "UP RIGHT DIAGONAL ELLIPSIS", "DOWN RIGHT DIAGONAL ELLIPSIS",
    "ELEMENT OF WITH LONG HORIZONTAL STROKE",
    "ELEMENT OF WITH VERTICAL BAR AT END OF HORIZONTAL STROKE",
    "SMALL ELEMENT OF WITH VERTICAL BAR AT END OF HORIZONTAL STROKE", "ELEMENT OF WITH DOT ABOVE",
    "ELEMENT OF WITH OVERBAR", "SMALL ELEMENT OF WITH OVERBAR", "ELEMENT OF WITH UNDERBAR",
    "ELEMENT OF WITH TWO HORIZONTAL STROKES", "CONTAINS WITH LONG HORIZONTAL STROKE",
    "CONTAINS WITH VERTICAL BAR AT END OF HORIZONTAL STROKE",
    "SMALL CONTAINS WITH VERTICAL BAR AT END OF HORIZONTAL STROKE", "CONTAINS WITH OVERBAR",
    "SMALL CONTAINS WITH OVERBAR", "Z NOTATION BAG MEMBERSHIP", "DIAMETER SIGN", "ELECTRIC ARROW",
    "HOUSE", "UP ARROWHEAD", "DOWN ARROWHEAD", "PROJECTIVE", "PERSPECTIVE", "WAVY LINE",
    "BOTTOM RIGHT CROP", "BOTTOM LEFT CROP", "TOP RIGHT CROP", "TOP LEFT CROP", "SQUARE LOZENGE",
    "ARC", "SEGMENT", "SECTOR", "TELEPHONE RECORDER", "POSITION INDICATOR", "VIEWDATA SQUARE",
    "PLACE OF INTEREST SIGN", "WATCH", "HOURGLASS", "TOP LEFT CORNER", "TOP RIGHT CORNER",
    "BOTTOM LEFT CORNER", "BOTTOM RIGHT CORNER", "TOP HALF INTEGRAL", "BOTTOM HALF INTEGRAL",
    "FROWN", "SMILE", "UP ARROWHEAD BETWEEN TWO HORIZONTAL BARS", "OPTION KEY",
    "ERASE TO THE RIGHT", "X IN A RECTANGLE BOX", "KEYBOARD", "LEFT-POINTING ANGLE BRACKET",
    "RIGHT-POINTING ANGLE BRACKET", "ERASE TO THE LEFT", "BENZENE RING", "CYLINDRICITY",
    "ALL AROUND-PROFILE", "SYMMETRY", "TOTAL RUNOUT", "DIMENSION ORIGIN", "CONICAL TAPER", "SLOPE",
    "COUNTERBORE", "COUNTERSINK", "NOT CHECK MARK", "SHOULDERED OPEN BOX", "BELL SYMBOL",
    "VERTICAL LINE WITH MIDDLE DOT", "INSERTION SYMBOL", "CONTINUOUS UNDERLINE SYMBOL",
    "DISCONTINUOUS UNDERLINE SYMBOL", "EMPHASIS SYMBOL", "COMPOSITION SYMBOL", "ENTER SYMBOL",
    "ALTERNATIVE KEY SYMBOL", "HELM SYMBOL", "BROKEN CIRCLE WITH NORTHWEST ARROW", "UNDO SYMBOL",
    "MONOSTABLE SYMBOL", "HYSTERESIS SYMBOL", "OPEN-CIRCUIT-OUTPUT H-TYPE SYMBOL",
    "OPEN-CIRCUIT-OUTPUT L-TYPE SYMBOL", "PASSIVE-PULL-DOWN-OUTPUT SYMBOL",
    "PASSIVE-PULL-UP-OUTPUT SYMBOL", "DIRECT CURRENT SYMBOL FORM TWO", "SOFTWARE-FUNCTION SYMBOL",
    "DECIMAL SEPARATOR KEY SYMBOL", "PREVIOUS PAGE", "NEXT PAGE", "PRINT SCREEN SYMBOL",
    "CLEAR SCREEN SYMBOL", "CURLY BRACKET EXTENSION", "INTEGRAL EXTENSION",
    "UPPER LEFT OR LOWER RIGHT CURLY BRACKET SECTION",
    "UPPER RIGHT OR LOWER LEFT CURLY BRACKET SECTION", "SUMMATION TOP", "SUMMATION BOTTOM",
    "TOP SQUARE BRACKET", "BOTTOM SQUARE BRACKET", "BOTTOM SQUARE BRACKET OVER TOP SQUARE BRACKET",
    "RADICAL SYMBOL BOTTOM", "SQUARE FOOT", "RETURN SYMBOL", "EJECT SYMBOL",
    "VERTICAL LINE EXTENSION", "METRICAL BREVE", "METRICAL LONG OVER SHORT",
    "METRICAL SHORT OVER LONG", "METRICAL LONG OVER TWO SHORTS", "METRICAL TWO SHORTS OVER LONG",
    "METRICAL TWO SHORTS JOINED", "METRICAL TRISEME", "METRICAL TETRASEME", "METRICAL PENTASEME",
    "EARTH GROUND", "FUSE", "TOP PARENTHESIS", "BOTTOM PARENTHESIS", "TOP CURLY BRACKET",
    "BOTTOM CURLY BRACKET", "TOP TORTOISE SHELL BRACKET", "BOTTOM TORTOISE SHELL BRACKET",
    "BENZENE RING WITH CIRCLE", "STRAIGHTNESS", "FLATNESS", "AC CURRENT", "ELECTRICAL INTERSECTION",
    "DECIMAL EXPONENT SYMBOL", "ALARM CLOCK", "STOPWATCH", "TIMER CLOCK",
    "HOURGLASS WITH FLOWING SAND", "POWER SYMBOL", "POWER ON-OFF SYMBOL", "POWER ON SYMBOL",
    "POWER SLEEP SYMBOL", "OBSERVER EYE SYMBOL", "BLANK SYMBOL", "OPEN BOX", "OCR HOOK",
    "OCR CHAIR", "OCR FORK", "OCR INVERTED FORK", "OCR BELT BUCKLE", "OCR BOW TIE",
    "OCR BRANCH BANK IDENTIFICATION", "OCR AMOUNT OF CHECK", "OCR DASH",
    "OCR CUSTOMER ACCOUNT NUMBER", "OCR DOUBLE BACKSLASH", "NUMBER TEN FULL STOP",
    "NUMBER ELEVEN FULL STOP", "NUMBER TWELVE FULL STOP", "NUMBER THIRTEEN FULL STOP",
    "NUMBER FOURTEEN FULL STOP", "NUMBER FIFTEEN FULL STOP", "NUMBER SIXTEEN FULL STOP",
    "NUMBER SEVENTEEN FULL STOP", "NUMBER EIGHTEEN FULL STOP", "NUMBER NINETEEN FULL STOP",
    "NUMBER TWENTY FULL STOP", "NEGATIVE CIRCLED DIGIT ZERO", "UPPER HALF BLOCK", "FULL BLOCK",
    "LIGHT SHADE", "MEDIUM SHADE", "DARK SHADE", "UPPER ONE EIGHTH BLOCK", "QUADRANT LOWER LEFT",
    "QUADRANT LOWER RIGHT", "FISHEYE", "LOZENGE", "DOTTED CIRCLE", "CIRCLE WITH VERTICAL FILL",
    "BULLSEYE", "CIRCLE WITH LEFT HALF BLACK", "CIRCLE WITH RIGHT HALF BLACK",
    "CIRCLE WITH LOWER HALF BLACK", "CIRCLE WITH UPPER HALF BLACK",
    "CIRCLE WITH UPPER RIGHT QUADRANT BLACK", "CIRCLE WITH ALL BUT UPPER LEFT QUADRANT BLACK",
    "INVERSE BULLET", "INVERSE WHITE CIRCLE", "UPPER HALF INVERSE WHITE CIRCLE",
    "UPPER LEFT QUADRANT CIRCULAR ARC", "UPPER RIGHT QUADRANT CIRCULAR ARC", "UPPER HALF CIRCLE",
    "UP-POINTING TRIANGLE WITH LEFT HALF BLACK", "UP-POINTING TRIANGLE WITH RIGHT HALF BLACK",
    "LARGE CIRCLE", "UPPER LEFT TRIANGLE", "UPPER RIGHT TRIANGLE", "CLOUD", "UMBRELLA", "SNOWMAN",
    "COMET", "LIGHTNING", "THUNDERSTORM", "SUN", "ASCENDING NODE", "DESCENDING NODE", "CONJUNCTION",
    "OPPOSITION", "BALLOT BOX", "BALLOT BOX WITH CHECK", "BALLOT BOX WITH X", "SALTIRE",
    "UMBRELLA WITH RAIN DROPS", "HOT BEVERAGE", "SHAMROCK", "SKULL AND CROSSBONES", "CAUTION SIGN",
    "RADIOACTIVE SIGN", "BIOHAZARD SIGN", "CADUCEUS", "ANKH", "ORTHODOX CROSS", "CHI RHO",
    "CROSS OF LORRAINE", "CROSS OF JERUSALEM", "STAR AND CRESCENT", "FARSI SYMBOL", "ADI SHAKTI",
    "HAMMER AND SICKLE", "PEACE SYMBOL", "YIN YANG", "TRIGRAM FOR HEAVEN", "TRIGRAM FOR LAKE",
    "TRIGRAM FOR FIRE", "TRIGRAM FOR THUNDER", "TRIGRAM FOR WIND", "TRIGRAM FOR WATER",
    "TRIGRAM FOR MOUNTAIN", "TRIGRAM FOR EARTH", "WHEEL OF DHARMA", "FIRST QUARTER MOON",
    "LAST QUARTER MOON", "MERCURY", "FEMALE SIGN", "EARTH", "MALE SIGN", "JUPITER", "SATURN",
    "URANUS", "NEPTUNE", "PLUTO", "ARIES", "TAURUS", "GEMINI", "CANCER", "LEO", "VIRGO", "LIBRA",
    "SCORPIUS", "SAGITTARIUS", "CAPRICORN", "AQUARIUS", "PISCES", "HOT SPRINGS", "QUARTER NOTE",
    "EIGHTH NOTE", "BEAMED EIGHTH NOTES", "BEAMED SIXTEENTH NOTES", "MUSIC FLAT SIGN",
    "MUSIC NATURAL SIGN", "MUSIC SHARP SIGN", "WEST SYRIAC CROSS", "EAST SYRIAC CROSS",
    "UNIVERSAL RECYCLING SYMBOL", "RECYCLED PAPER SYMBOL", "PARTIALLY-RECYCLED PAPER SYMBOL",
    "PERMANENT PAPER SIGN", "WHEELCHAIR SYMBOL", "DIE FACE-1", "DIE FACE-2", "DIE FACE-3",
    "DIE FACE-4", "DIE FACE-5", "DIE FACE-6", "MONOGRAM FOR YANG", "MONOGRAM FOR YIN",
    "DIGRAM FOR GREATER YANG", "DIGRAM FOR LESSER YIN", "DIGRAM FOR LESSER YANG",
    "DIGRAM FOR GREATER YIN", "HAMMER AND PICK", "ANCHOR", "CROSSED SWORDS", "STAFF OF AESCULAPIUS",
    "SCALES", "ALEMBIC", "FLOWER", "GEAR", "STAFF OF HERMES", "ATOM SYMBOL", "FLEUR-DE-LIS",
    "OUTLINED WHITE STAR", "THREE LINES CONVERGING RIGHT", "THREE LINES CONVERGING LEFT",
    "WARNING SIGN", "HIGH VOLTAGE SIGN", "DOUBLED FEMALE SIGN", "DOUBLED MALE SIGN",
    "INTERLOCKED FEMALE AND MALE SIGN", "MALE AND FEMALE SIGN", "MALE WITH STROKE SIGN",
    "MALE WITH STROKE AND MALE AND FEMALE SIGN", "VERTICAL MALE WITH STROKE SIGN",
    "MEDIUM WHITE CIRCLE", "MEDIUM BLACK CIRCLE", "MEDIUM SMALL WHITE CIRCLE", "MARRIAGE SYMBOL",
    "DIVORCE SYMBOL", "UNMARRIED PARTNERSHIP SYMBOL", "COFFIN", "FUNERAL URN", "NEUTER", "CERES",
    "PALLAS", "JUNO", "VESTA", "CHIRON", "SEXTILE", "SEMISEXTILE", "QUINCUNX", "SESQUIQUADRATE",
    "SOCCER BALL", "BASEBALL", "SQUARED KEY", "SNOWMAN WITHOUT SNOW", "SUN BEHIND CLOUD", "RAIN",
    "THUNDER CLOUD AND RAIN", "CROSSING LANES", "DISABLED CAR", "OPHIUCHUS", "PICK", "CAR SLIDING",
    "HELMET WITH WHITE CROSS", "CHAINS", "NO ENTRY", "ALTERNATE ONE-WAY LEFT WAY TRAFFIC",
    "DRIVE SLOW SIGN", "SQUARED SALTIRE", "FALLING DIAGONAL IN WHITE CIRCLE IN BLACK SQUARE",
    "RESTRICTED LEFT ENTRY-1", "RESTRICTED LEFT ENTRY-2", "ASTRONOMICAL SYMBOL FOR URANUS",
    "PENTAGRAM", "RIGHT-HANDED INTERLACED PENTAGRAM", "LEFT-HANDED INTERLACED PENTAGRAM",
    "INVERTED PENTAGRAM", "SHINTO SHRINE", "CHURCH", "CASTLE", "HISTORIC SITE", "GEAR WITHOUT HUB",
    "GEAR WITH HANDLES", "MAP SYMBOL FOR LIGHTHOUSE", "MOUNTAIN", "UMBRELLA ON GROUND", "FOUNTAIN",
    "FLAG IN HOLE", "FERRY", "SAILBOAT", "SQUARE FOUR CORNERS", "SKIER", "ICE SKATE",
    "PERSON WITH BALL", "TENT", "JAPANESE BANK SYMBOL", "HEADSTONE GRAVEYARD SYMBOL", "FUEL PUMP",
    "CUP ON BLACK SQUARE", "UPPER BLADE SCISSORS", "TELEPHONE LOCATION SIGN", "TAPE DRIVE",
    "AIRPLANE", "ENVELOPE", "RAISED FIST", "RAISED HAND", "VICTORY HAND", "WRITING HAND", "PENCIL",
    "UPPER RIGHT PENCIL", "CHECK MARK", "MULTIPLICATION X", "BALLOT X", "OUTLINED GREEK CROSS",
    "OPEN CENTRE CROSS", "LATIN CROSS", "SHADOWED WHITE LATIN CROSS", "OUTLINED LATIN CROSS",
    "MALTESE CROSS", "STAR OF DAVID", "FOUR TEARDROP-SPOKED ASTERISK",
    "FOUR BALLOON-SPOKED ASTERISK", "FOUR CLUB-SPOKED ASTERISK", "SPARKLES",
    "STRESS OUTLINED WHITE STAR", "OPEN CENTRE BLACK STAR", "OUTLINED BLACK STAR", "PINWHEEL STAR",
    "SHADOWED WHITE STAR", "OPEN CENTRE ASTERISK", "EIGHT SPOKED ASTERISK",
    "EIGHT POINTED BLACK STAR", "EIGHT POINTED PINWHEEL STAR", "SIX POINTED BLACK STAR",
    "EIGHT POINTED RECTILINEAR BLACK STAR", "TWELVE POINTED BLACK STAR", "SIXTEEN POINTED ASTERISK",
    "TEARDROP-SPOKED ASTERISK", "OPEN CENTRE TEARDROP-SPOKED ASTERISK",
    "SIX PETALLED BLACK AND WHITE FLORETTE", "EIGHT PETALLED OUTLINED BLACK FLORETTE", "SNOWFLAKE",
    "TIGHT TRIFOLIATE SNOWFLAKE", "SPARKLE", "BALLOON-SPOKED ASTERISK",
    "EIGHT TEARDROP-SPOKED PROPELLER ASTERISK", "CROSS MARK", "SHADOWED WHITE CIRCLE",
    "NEGATIVE SQUARED CROSS MARK", "UPPER RIGHT DROP-SHADOWED WHITE SQUARE",
    "UPPER RIGHT SHADOWED WHITE SQUARE", "LIGHT VERTICAL BAR", "MEDIUM VERTICAL BAR",
    "CURVED STEM PARAGRAPH SIGN ORNAMENT", "ROTATED HEAVY BLACK HEART BULLET", "FLORAL HEART",
    "ROTATED FLORAL HEART BULLET", "MEDIUM LEFT PARENTHESIS ORNAMENT",
    "MEDIUM RIGHT PARENTHESIS ORNAMENT", "MEDIUM FLATTENED LEFT PARENTHESIS ORNAMENT",
    "MEDIUM FLATTENED RIGHT PARENTHESIS ORNAMENT", "MEDIUM LEFT-POINTING ANGLE BRACKET ORNAMENT",
    "MEDIUM RIGHT-POINTING ANGLE BRACKET ORNAMENT", "LIGHT LEFT TORTOISE SHELL BRACKET ORNAMENT",
    "LIGHT RIGHT TORTOISE SHELL BRACKET ORNAMENT", "MEDIUM LEFT CURLY BRACKET ORNAMENT",
    "MEDIUM RIGHT CURLY BRACKET ORNAMENT", "DINGBAT CIRCLED SANS-SERIF NUMBER TEN",
    "DRAFTING POINT RIGHTWARDS ARROW", "TRIANGLE-HEADED RIGHTWARDS ARROW",
    "DASHED TRIANGLE-HEADED RIGHTWARDS ARROW", "THREE-D TOP-LIGHTED RIGHTWARDS ARROWHEAD",
    "THREE-D BOTTOM-LIGHTED RIGHTWARDS ARROWHEAD", "SQUAT BLACK RIGHTWARDS ARROW",
    "RIGHT-SHADED WHITE RIGHTWARDS ARROW", "LEFT-SHADED WHITE RIGHTWARDS ARROW",
    "BACK-TILTED SHADOWED WHITE RIGHTWARDS ARROW", "FRONT-TILTED SHADOWED WHITE RIGHTWARDS ARROW",
    "NOTCHED LOWER RIGHT-SHADOWED WHITE RIGHTWARDS ARROW", "CURLY LOOP",
    "NOTCHED UPPER RIGHT-SHADOWED WHITE RIGHTWARDS ARROW", "WHITE-FEATHERED RIGHTWARDS ARROW",
    "BLACK-FEATHERED SOUTH EAST ARROW", "BLACK-FEATHERED RIGHTWARDS ARROW",
    "BLACK-FEATHERED NORTH EAST ARROW", "TEARDROP-BARBED RIGHTWARDS ARROW",
    "WEDGE-TAILED RIGHTWARDS ARROW", "OPEN-OUTLINED RIGHTWARDS ARROW", "THREE DIMENSIONAL ANGLE",
    "PERPENDICULAR", "OPEN SUBSET", "OPEN SUPERSET", "OR WITH DOT INSIDE",
    "REVERSE SOLIDUS PRECEDING SUBSET", "SUPERSET PRECEDING SOLIDUS",
    "VERTICAL BAR WITH HORIZONTAL STROKE", "LONG DIVISION", "SQUARED LOGICAL AND",
    "SQUARED LOGICAL OR", "AND WITH DOT", "ELEMENT OF OPENING UPWARDS",
    "UPPER LEFT CORNER WITH DOT", "FULL OUTER JOIN", "LARGE UP TACK", "LARGE DOWN TACK",
    "LONG RIGHT TACK", "LONG LEFT TACK", "UP TACK WITH CIRCLE ABOVE",
    "LOZENGE DIVIDED BY HORIZONTAL RULE", "ANTICLOCKWISE GAPPED CIRCLE ARROW",
    "CLOCKWISE GAPPED CIRCLE ARROW", "LONG LEFTWARDS ARROW", "LONG RIGHTWARDS ARROW",
    "LONG LEFT RIGHT ARROW", "LONG LEFTWARDS DOUBLE ARROW", "LONG RIGHTWARDS DOUBLE ARROW",
    "LONG LEFT RIGHT DOUBLE ARROW", "LONG LEFTWARDS ARROW FROM BAR",
    "LONG RIGHTWARDS ARROW FROM BAR", "LONG LEFTWARDS DOUBLE ARROW FROM BAR",
    "LONG RIGHTWARDS DOUBLE ARROW FROM BAR", "LONG RIGHTWARDS SQUIGGLE ARROW",
    "NORTH EAST WHITE ARROW", "NORTH WEST WHITE ARROW", "SOUTH EAST WHITE ARROW",
    "SOUTH WEST WHITE ARROW", "NORTH EAST BLACK ARROW", "NORTH WEST BLACK ARROW",
    "SOUTH EAST BLACK ARROW", "SOUTH WEST BLACK ARROW", "UP DOWN BLACK ARROW",
    "DIAMOND WITH LEFT HALF BLACK", "DIAMOND WITH RIGHT HALF BLACK", "DIAMOND WITH TOP HALF BLACK",
    "DIAMOND WITH BOTTOM HALF BLACK", "DOTTED SQUARE", "THREE LEFTWARDS ARROWS",
    "LONG LEFTWARDS SQUIGGLE ARROW", "WAVE ARROW POINTING DIRECTLY LEFT",
    "EQUALS SIGN ABOVE LEFTWARDS ARROW", "REVERSE TILDE OPERATOR ABOVE LEFTWARDS ARROW",
    "REVERSE TILDE OPERATOR ABOVE RIGHTWARDS ARROW", "TILDE OPERATOR ABOVE LEFTWARDS ARROW",
    "SHORT SLANTED NORTH ARROW", "SHORT BACKSLANTED SOUTH ARROW",
    "SLANTED NORTH ARROW WITH HOOKED HEAD", "BACKSLANTED SOUTH ARROW WITH HOOKED TAIL",
    "SLANTED NORTH ARROW WITH HORIZONTAL TAIL", "BACKSLANTED SOUTH ARROW WITH HORIZONTAL TAIL",
    "BENT ARROW POINTING DOWNWARDS THEN NORTH EAST",
    "SHORT BENT ARROW POINTING DOWNWARDS THEN NORTH EAST", "IDEOGRAPHIC SPACE", "IDEOGRAPHIC COMMA",
    "IDEOGRAPHIC FULL STOP", "DITTO MARK", "JAPANESE INDUSTRIAL STANDARD SYMBOL",
    "IDEOGRAPHIC ITERATION MARK", "IDEOGRAPHIC CLOSING MARK", "IDEOGRAPHIC NUMBER ZERO",
    "POSTAL MARK", "GETA MARK", "WAVE DASH", "LOW DOUBLE PRIME QUOTATION MARK", "POSTAL MARK FACE",
    "KATAKANA-HIRAGANA VOICED SOUND MARK", "KATAKANA-HIRAGANA SEMI-VOICED SOUND MARK",
    "HIRAGANA ITERATION MARK", "HIRAGANA VOICED ITERATION MARK", "HIRAGANA DIGRAPH YORI",
    "KATAKANA-HIRAGANA DOUBLE HYPHEN", "KATAKANA MIDDLE DOT",
    "KATAKANA-HIRAGANA PROLONGED SOUND MARK", "KATAKANA ITERATION MARK",
    "KATAKANA VOICED ITERATION MARK", "KATAKANA DIGRAPH KOTO", "ZERO WIDTH NO-BREAK SPACE",
    "OBJECT REPLACEMENT CHARACTER", "REPLACEMENT CHARACTER", "CYCLONE", "FOGGY", "CLOSED UMBRELLA",
    "NIGHT WITH STARS", "SUNRISE OVER MOUNTAINS", "SUNRISE", "CITYSCAPE AT DUSK",
    "SUNSET OVER BUILDINGS", "RAINBOW", "BRIDGE AT NIGHT", "WATER WAVE", "VOLCANO", "MILKY WAY",
    "EARTH GLOBE EUROPE-AFRICA", "EARTH GLOBE AMERICAS", "EARTH GLOBE ASIA-AUSTRALIA",
    "GLOBE WITH MERIDIANS", "NEW MOON SYMBOL", "WAXING CRESCENT MOON SYMBOL",
    "FIRST QUARTER MOON SYMBOL", "WAXING GIBBOUS MOON SYMBOL", "FULL MOON SYMBOL",
    "WANING GIBBOUS MOON SYMBOL", "LAST QUARTER MOON SYMBOL", "WANING CRESCENT MOON SYMBOL",
    "CRESCENT MOON", "NEW MOON WITH FACE", "FIRST QUARTER MOON WITH FACE",
    "LAST QUARTER MOON WITH FACE", "FULL MOON WITH FACE", "SUN WITH FACE", "GLOWING STAR",
    "SHOOTING STAR", "THERMOMETER", "CLOUD WITH RAIN", "CLOUD WITH SNOW", "CLOUD WITH LIGHTNING",
    "CLOUD WITH TORNADO", "FOG", "WIND BLOWING FACE", "HOT DOG", "TACO", "BURRITO", "CHESTNUT",
    "SEEDLING", "EVERGREEN TREE", "DECIDUOUS TREE", "PALM TREE", "CACTUS", "HOT PEPPER", "TULIP",
    "CHERRY BLOSSOM", "ROSE", "HIBISCUS", "SUNFLOWER", "BLOSSOM", "EAR OF MAIZE", "EAR OF RICE",
    "HERB", "FOUR LEAF CLOVER", "MAPLE LEAF", "FALLEN LEAF", "LEAF FLUTTERING IN WIND", "MUSHROOM",
    "TOMATO", "AUBERGINE", "GRAPES", "MELON", "WATERMELON", "TANGERINE", "LEMON", "BANANA",
    "PINEAPPLE", "RED APPLE", "GREEN APPLE", "PEAR", "PEACH", "CHERRIES", "STRAWBERRY", "HAMBURGER",
    "SLICE OF PIZZA", "MEAT ON BONE", "POULTRY LEG", "RICE CRACKER", "RICE BALL", "COOKED RICE",
    "CURRY AND RICE", "STEAMING BOWL", "SPAGHETTI", "BREAD", "FRENCH FRIES", "ROASTED SWEET POTATO",
    "DANGO", "ODEN", "SUSHI", "FRIED SHRIMP", "FISH CAKE WITH SWIRL DESIGN", "SOFT ICE CREAM",
    "SHAVED ICE", "ICE CREAM", "DOUGHNUT", "COOKIE", "CHOCOLATE BAR", "CANDY", "LOLLIPOP",
    "CUSTARD", "HONEY POT", "SHORTCAKE", "BENTO BOX", "POT OF FOOD", "COOKING", "FORK AND KNIFE",
    "TEACUP WITHOUT HANDLE", "SAKE BOTTLE AND CUP", "WINE GLASS", "COCKTAIL GLASS",
    "TROPICAL DRINK", "BEER MUG", "CLINKING BEER MUGS", "BABY BOTTLE", "FORK AND KNIFE WITH PLATE",
    "BOTTLE WITH POPPING CORK", "POPCORN", "RIBBON", "WRAPPED PRESENT", "BIRTHDAY CAKE",
    "JACK-O-LANTERN", "CHRISTMAS TREE", "FATHER CHRISTMAS", "FIREWORKS", "FIREWORK SPARKLER",
    "BALLOON", "PARTY POPPER", "CONFETTI BALL", "TANABATA TREE", "CROSSED FLAGS", "PINE DECORATION",
    "JAPANESE DOLLS", "CARP STREAMER", "WIND CHIME", "MOON VIEWING CEREMONY", "SCHOOL SATCHEL",
    "GRADUATION CAP", "HEART WITH TIP ON THE LEFT", "BOUQUET OF FLOWERS", "MILITARY MEDAL",
    "REMINDER RIBBON", "MUSICAL KEYBOARD WITH JACKS", "STUDIO MICROPHONE", "LEVEL SLIDER",
    "CONTROL KNOBS", "BEAMED ASCENDING MUSICAL NOTES", "BEAMED DESCENDING MUSICAL NOTES",
    "FILM FRAMES", "ADMISSION TICKETS", "CAROUSEL HORSE", "FERRIS WHEEL", "ROLLER COASTER",
    "FISHING POLE AND FISH", "MICROPHONE", "MOVIE CAMERA", "CINEMA", "HEADPHONE", "ARTIST PALETTE",
    "TOP HAT", "CIRCUS TENT", "TICKET", "CLAPPER BOARD", "PERFORMING ARTS", "VIDEO GAME",
    "DIRECT HIT", "SLOT MACHINE", "BILLIARDS", "GAME DIE", "BOWLING", "FLOWER PLAYING CARDS",
    "MUSICAL NOTE", "MULTIPLE MUSICAL NOTES", "SAXOPHONE", "GUITAR", "MUSICAL KEYBOARD", "TRUMPET",
    "VIOLIN", "MUSICAL SCORE", "RUNNING SHIRT WITH SASH", "TENNIS RACQUET AND BALL",
    "SKI AND SKI BOOT", "BASKETBALL AND HOOP", "CHEQUERED FLAG", "SNOWBOARDER", "RUNNER", "SURFER",
    "SPORTS MEDAL", "TROPHY", "HORSE RACING", "AMERICAN FOOTBALL", "RUGBY FOOTBALL", "SWIMMER",
    "WEIGHT LIFTER", "GOLFER", "RACING MOTORCYCLE", "RACING CAR", "CRICKET BAT AND BALL",
    "VOLLEYBALL", "FIELD HOCKEY STICK AND BALL", "ICE HOCKEY STICK AND PUCK",
    "TABLE TENNIS PADDLE AND BALL", "SNOW CAPPED MOUNTAIN", "CAMPING", "BEACH WITH UMBRELLA",
    "BUILDING CONSTRUCTION", "HOUSE BUILDINGS", "CITYSCAPE", "DERELICT HOUSE BUILDING",
    "CLASSICAL BUILDING", "DESERT", "DESERT ISLAND", "NATIONAL PARK", "STADIUM", "HOUSE BUILDING",
    "HOUSE WITH GARDEN", "OFFICE BUILDING", "JAPANESE POST OFFICE", "EUROPEAN POST OFFICE",
    "HOSPITAL", "BANK", "AUTOMATED TELLER MACHINE", "HOTEL", "LOVE HOTEL", "CONVENIENCE STORE",
    "SCHOOL", "DEPARTMENT STORE", "FACTORY", "IZAKAYA LANTERN", "JAPANESE CASTLE",
    "EUROPEAN CASTLE", "WAVING WHITE FLAG", "WAVING BLACK FLAG", "ROSETTE", "LABEL",
    "BADMINTON RACQUET AND SHUTTLECOCK", "BOW AND ARROW", "AMPHORA", "RAT", "MOUSE", "OX",
    "WATER BUFFALO", "COW", "TIGER", "LEOPARD", "RABBIT", "CAT", "DRAGON", "CROCODILE", "WHALE",
    "SNAIL", "SNAKE", "HORSE", "RAM", "GOAT", "SHEEP", "MONKEY", "ROOSTER", "CHICKEN", "DOG", "PIG",
    "BOAR", "ELEPHANT", "OCTOPUS", "SPIRAL SHELL", "BUG", "ANT", "HONEYBEE", "LADY BEETLE", "FISH",
    "TROPICAL FISH", "BLOWFISH", "TURTLE", "HATCHING CHICK", "BABY CHICK",
    "FRONT-FACING BABY CHICK", "BIRD", "PENGUIN", "KOALA", "POODLE", "DROMEDARY CAMEL",
    "BACTRIAN CAMEL", "DOLPHIN", "MOUSE FACE", "COW FACE", "TIGER FACE", "RABBIT FACE", "CAT FACE",
    "DRAGON FACE", "SPOUTING WHALE", "HORSE FACE", "MONKEY FACE", "DOG FACE", "PIG FACE",
    "FROG FACE", "HAMSTER FACE", "WOLF FACE", "BEAR FACE", "PANDA FACE", "PIG NOSE", "PAW PRINTS",
    "CHIPMUNK", "EYES", "EYE", "EAR", "NOSE", "MOUTH", "TONGUE", "FISTED HAND SIGN",
    "WAVING HAND SIGN", "OK HAND SIGN", "THUMBS UP SIGN", "THUMBS DOWN SIGN", "CLAPPING HANDS SIGN",
    "OPEN HANDS SIGN", "CROWN", "WOMANS HAT", "EYEGLASSES", "NECKTIE", "T-SHIRT", "JEANS", "DRESS",
    "KIMONO", "BIKINI", "WOMANS CLOTHES", "PURSE", "HANDBAG", "POUCH", "MANS SHOE", "ATHLETIC SHOE",
    "HIGH-HEELED SHOE", "WOMANS SANDAL", "WOMANS BOOTS", "FOOTPRINTS", "BUST IN SILHOUETTE",
    "BUSTS IN SILHOUETTE", "BOY", "GIRL", "MAN", "WOMAN", "FAMILY", "MAN AND WOMAN HOLDING HANDS",
    "TWO MEN HOLDING HANDS", "TWO WOMEN HOLDING HANDS", "POLICE OFFICER", "WOMAN WITH BUNNY EARS",
    "BRIDE WITH VEIL", "PERSON WITH BLOND HAIR", "MAN WITH GUA PI MAO", "MAN WITH TURBAN",
    "OLDER MAN", "OLDER WOMAN", "BABY", "CONSTRUCTION WORKER", "PRINCESS", "JAPANESE OGRE",
    "JAPANESE GOBLIN", "GHOST", "BABY ANGEL", "EXTRATERRESTRIAL ALIEN", "ALIEN MONSTER", "IMP",
    "SKULL", "INFORMATION DESK PERSON", "GUARDSMAN", "DANCER", "LIPSTICK", "NAIL POLISH",
    "FACE MASSAGE", "HAIRCUT", "BARBER POLE", "SYRINGE", "PILL", "KISS MARK", "LOVE LETTER", "RING",
    "GEM STONE", "KISS", "BOUQUET", "COUPLE WITH HEART", "WEDDING", "BEATING HEART", "BROKEN HEART",
    "TWO HEARTS", "SPARKLING HEART", "GROWING HEART", "HEART WITH ARROW", "BLUE HEART",
    "GREEN HEART", "YELLOW HEART", "PURPLE HEART", "HEART WITH RIBBON", "REVOLVING HEARTS",
    "HEART DECORATION", "DIAMOND SHAPE WITH A DOT INSIDE", "ELECTRIC LIGHT BULB", "ANGER SYMBOL",
    "BOMB", "SLEEPING SYMBOL", "COLLISION SYMBOL", "SPLASHING SWEAT SYMBOL", "DROPLET",
    "DASH SYMBOL", "PILE OF POO", "FLEXED BICEPS", "DIZZY SYMBOL", "SPEECH BALLOON",
    "THOUGHT BALLOON", "HUNDRED POINTS SYMBOL", "MONEY BAG", "CURRENCY EXCHANGE", "CREDIT CARD",
    "BANKNOTE WITH YEN SIGN", "BANKNOTE WITH DOLLAR SIGN", "BANKNOTE WITH EURO SIGN",
    "BANKNOTE WITH POUND SIGN", "MONEY WITH WINGS", "CHART WITH UPWARDS TREND AND YEN SIGN", "SEAT",
    "PERSONAL COMPUTER", "BRIEFCASE", "MINIDISC", "FLOPPY DISK", "OPTICAL DISC", "DVD",
    "FILE FOLDER", "OPEN FILE FOLDER", "PAGE WITH CURL", "PAGE FACING UP", "CALENDAR",
    "TEAR-OFF CALENDAR", "CARD INDEX", "CHART WITH UPWARDS TREND", "CHART WITH DOWNWARDS TREND",
    "BAR CHART", "CLIPBOARD", "PUSHPIN", "ROUND PUSHPIN", "PAPERCLIP", "STRAIGHT RULER",
    "TRIANGULAR RULER", "BOOKMARK TABS", "LEDGER", "NOTEBOOK", "NOTEBOOK WITH DECORATIVE COVER",
    "CLOSED BOOK", "OPEN BOOK", "GREEN BOOK", "BLUE BOOK", "ORANGE BOOK", "BOOKS", "NAME BADGE",
    "SCROLL", "MEMO", "TELEPHONE RECEIVER", "PAGER", "FAX MACHINE", "SATELLITE ANTENNA",
    "PUBLIC ADDRESS LOUDSPEAKER", "CHEERING MEGAPHONE", "OUTBOX TRAY", "INBOX TRAY", "PACKAGE",
    "E-MAIL SYMBOL", "INCOMING ENVELOPE", "ENVELOPE WITH DOWNWARDS ARROW ABOVE",
    "CLOSED MAILBOX WITH LOWERED FLAG", "CLOSED MAILBOX WITH RAISED FLAG",
    "OPEN MAILBOX WITH RAISED FLAG", "OPEN MAILBOX WITH LOWERED FLAG", "POSTBOX", "POSTAL HORN",
    "NEWSPAPER", "MOBILE PHONE", "MOBILE PHONE WITH RIGHTWARDS ARROW AT LEFT", "VIBRATION MODE",
    "MOBILE PHONE OFF", "NO MOBILE PHONES", "ANTENNA WITH BARS", "CAMERA", "CAMERA WITH FLASH",
    "VIDEO CAMERA", "TELEVISION", "RADIO", "VIDEOCASSETTE", "FILM PROJECTOR", "PORTABLE STEREO",
    "PRAYER BEADS", "TWISTED RIGHTWARDS ARROWS",
    "CLOCKWISE RIGHTWARDS AND LEFTWARDS OPEN CIRCLE ARROWS",
    "CLOCKWISE RIGHTWARDS AND LEFTWARDS OPEN CIRCLE ARROWS WITH CIRCLED ONE OVERLAY",
    "CLOCKWISE DOWNWARDS AND UPWARDS OPEN CIRCLE ARROWS",
    "ANTICLOCKWISE DOWNWARDS AND UPWARDS OPEN CIRCLE ARROWS", "LOW BRIGHTNESS SYMBOL",
    "HIGH BRIGHTNESS SYMBOL", "SPEAKER WITH CANCELLATION STROKE", "SPEAKER",
    "SPEAKER WITH ONE SOUND WAVE", "SPEAKER WITH THREE SOUND WAVES", "BATTERY", "ELECTRIC PLUG",
    "LEFT-POINTING MAGNIFYING GLASS", "RIGHT-POINTING MAGNIFYING GLASS", "LOCK WITH INK PEN",
    "CLOSED LOCK WITH KEY", "KEY", "LOCK", "OPEN LOCK", "BELL", "BELL WITH CANCELLATION STROKE",
    "BOOKMARK", "LINK SYMBOL", "RADIO BUTTON", "BACK WITH LEFTWARDS ARROW ABOVE",
    "END WITH LEFTWARDS ARROW ABOVE", "ON WITH EXCLAMATION MARK WITH LEFT RIGHT ARROW ABOVE",
    "SOON WITH RIGHTWARDS ARROW ABOVE", "TOP WITH UPWARDS ARROW ABOVE",
    "NO ONE UNDER EIGHTEEN SYMBOL", "KEYCAP TEN", "INPUT SYMBOL FOR LATIN CAPITAL LETTERS",
    "INPUT SYMBOL FOR LATIN SMALL LETTERS", "INPUT SYMBOL FOR NUMBERS", "INPUT SYMBOL FOR SYMBOLS",
    "INPUT SYMBOL FOR LATIN LETTERS", "FIRE", "ELECTRIC TORCH", "WRENCH", "HAMMER", "NUT AND BOLT",
    "HOCHO", "PISTOL", "MICROSCOPE", "TELESCOPE", "CRYSTAL BALL",
    "SIX POINTED STAR WITH MIDDLE DOT", "JAPANESE SYMBOL FOR BEGINNER", "TRIDENT EMBLEM",
    "LARGE RED CIRCLE", "LARGE BLUE CIRCLE", "LARGE ORANGE DIAMOND", "LARGE BLUE DIAMOND",
    "SMALL ORANGE DIAMOND", "SMALL BLUE DIAMOND", "UP-POINTING RED TRIANGLE",
    "DOWN-POINTING RED TRIANGLE", "UP-POINTING SMALL RED TRIANGLE",
    "DOWN-POINTING SMALL RED TRIANGLE", "UPPER RIGHT SHADOWED WHITE CIRCLE",
    "CROSS POMMEE WITH HALF-CIRCLE BELOW", "CROSS POMMEE",
    "NOTCHED LEFT SEMICIRCLE WITH THREE DOTS", "NOTCHED RIGHT SEMICIRCLE WITH THREE DOTS",
    "CELTIC CROSS", "OM SYMBOL", "DOVE OF PEACE", "KAABA", "MOSQUE", "SYNAGOGUE",
    "MENORAH WITH NINE BRANCHES", "BOWL OF HYGIEIA", "BULLHORN", "BULLHORN WITH SOUND WAVES",
    "RINGING BELL", "BOOK", "CANDLE", "MANTELPIECE CLOCK", "NO PIRACY", "HOLE",
    "MAN IN BUSINESS SUIT LEVITATING", "SLEUTH OR SPY", "DARK SUNGLASSES", "SPIDER", "SPIDER WEB",
    "JOYSTICK", "MAN DANCING", "TELEPHONE RECEIVER WITH PAGE", "TELEPHONE ON TOP OF MODEM",
    "CLAMSHELL MOBILE PHONE", "BACK OF ENVELOPE", "STAMPED ENVELOPE", "ENVELOPE WITH LIGHTNING",
    "FLYING ENVELOPE", "PEN OVER STAMPED ENVELOPE", "LINKED PAPERCLIPS",
    "RAISED HAND WITH FINGERS SPLAYED", "RAISED HAND WITH PART BETWEEN MIDDLE AND RING FINGERS",
    "SIDEWAYS WHITE LEFT POINTING INDEX", "SIDEWAYS WHITE RIGHT POINTING INDEX",
    "SIDEWAYS BLACK LEFT POINTING INDEX", "SIDEWAYS BLACK RIGHT POINTING INDEX",
    "SIDEWAYS WHITE UP POINTING INDEX", "SIDEWAYS WHITE DOWN POINTING INDEX",
    "SIDEWAYS BLACK UP POINTING INDEX", "SIDEWAYS BLACK DOWN POINTING INDEX", "DESKTOP COMPUTER",
    "KEYBOARD AND MOUSE", "THREE NETWORKED COMPUTERS", "PRINTER", "POCKET CALCULATOR",
    "SOFT SHELL FLOPPY DISK", "TAPE CARTRIDGE", "WIRED KEYBOARD", "ONE BUTTON MOUSE",
    "TWO BUTTON MOUSE", "THREE BUTTON MOUSE", "TRACKBALL", "OLD PERSONAL COMPUTER", "HARD DISK",
    "SCREEN", "PRINTER ICON", "FAX ICON", "OPTICAL DISC ICON", "DOCUMENT WITH TEXT",
    "DOCUMENT WITH TEXT AND PICTURE", "DOCUMENT WITH PICTURE", "FRAME WITH PICTURE",
    "FRAME WITH TILES", "FRAME WITH AN X", "FOLDER", "OPEN FOLDER", "CARD INDEX DIVIDERS",
    "CARD FILE BOX", "FILE CABINET", "EMPTY NOTE", "EMPTY NOTE PAGE", "EMPTY NOTE PAD", "NOTE",
    "NOTE PAGE", "NOTE PAD", "EMPTY DOCUMENT", "EMPTY PAGE", "EMPTY PAGES", "DOCUMENT", "PAGE",
    "PAGES", "WASTEBASKET", "SPIRAL NOTE PAD", "SPIRAL CALENDAR PAD", "DESKTOP WINDOW", "MINIMIZE",
    "MAXIMIZE", "OVERLAP", "CLOCKWISE RIGHT AND LEFT SEMICIRCLE ARROWS", "CANCELLATION X",
    "INCREASE FONT SIZE SYMBOL", "DECREASE FONT SIZE SYMBOL", "COMPRESSION", "OLD KEY",
    "ROLLED-UP NEWSPAPER", "PAGE WITH CIRCLED TEXT", "STOCK CHART", "DAGGER KNIFE", "LIPS",
    "SPEAKING HEAD IN SILHOUETTE", "THREE RAYS ABOVE", "THREE RAYS BELOW", "THREE RAYS LEFT",
    "THREE RAYS RIGHT", "TWO SPEECH BUBBLES", "THREE SPEECH BUBBLES", "MOOD BUBBLE",
    "LIGHTNING MOOD BUBBLE", "LIGHTNING MOOD", "BALLOT BOX WITH BALLOT", "BALLOT SCRIPT X",
    "BALLOT BOX WITH SCRIPT X", "BALLOT BOLD SCRIPT X", "BALLOT BOX WITH BOLD SCRIPT X",
    "LIGHT CHECK MARK", "BALLOT BOX WITH BOLD CHECK", "WORLD MAP", "MOUNT FUJI", "TOKYO TOWER",
    "STATUE OF LIBERTY", "SILHOUETTE OF JAPAN", "MOYAI", "GRINNING FACE",
    "GRINNING FACE WITH SMILING EYES", "WINKING FACE", "FACE SAVOURING DELICIOUS FOOD",
    "RELIEVED FACE", "SMIRKING FACE", "NEUTRAL FACE", "EXPRESSIONLESS FACE", "UNAMUSED FACE",
    "PENSIVE FACE", "CONFUSED FACE", "CONFOUNDED FACE", "KISSING FACE", "FACE THROWING A KISS",
    "KISSING FACE WITH SMILING EYES", "KISSING FACE WITH CLOSED EYES", "DISAPPOINTED FACE",
    "WORRIED FACE", "ANGRY FACE", "POUTING FACE", "CRYING FACE", "PERSEVERING FACE",
    "DISAPPOINTED BUT RELIEVED FACE", "FROWNING FACE WITH OPEN MOUTH", "ANGUISHED FACE",
    "FEARFUL FACE", "WEARY FACE", "SLEEPY FACE", "TIRED FACE", "GRIMACING FACE",
    "LOUDLY CRYING FACE", "HUSHED FACE", "FACE SCREAMING IN FEAR", "ASTONISHED FACE",
    "FLUSHED FACE", "SLEEPING FACE", "DIZZY FACE", "FACE WITHOUT MOUTH",
    "GRINNING CAT FACE WITH SMILING EYES", "CAT FACE WITH TEARS OF JOY",
    "SMILING CAT FACE WITH OPEN MOUTH", "SMILING CAT FACE WITH HEART-SHAPED EYES",
    "CAT FACE WITH WRY SMILE", "KISSING CAT FACE WITH CLOSED EYES", "POUTING CAT FACE",
    "CRYING CAT FACE", "WEARY CAT FACE", "SLIGHTLY FROWNING FACE", "SLIGHTLY SMILING FACE",
    "UPSIDE-DOWN FACE", "PERSON BOWING DEEPLY", "SEE-NO-EVIL MONKEY", "HEAR-NO-EVIL MONKEY",
    "SPEAK-NO-EVIL MONKEY", "HAPPY PERSON RAISING ONE HAND",
    "PERSON RAISING BOTH HANDS IN CELEBRATION", "PERSON FROWNING", "PERSON WITH POUTING FACE",
    "PERSON WITH FOLDED HANDS", "NORTH WEST POINTING LEAF", "SOUTH WEST POINTING LEAF",
    "NORTH EAST POINTING LEAF", "SOUTH EAST POINTING LEAF", "NORTH WEST POINTING VINE LEAF",
    "SOUTH WEST POINTING VINE LEAF", "NORTH EAST POINTING VINE LEAF",
    "SOUTH EAST POINTING VINE LEAF", "NORTH WEST POINTING BUD", "SOUTH WEST POINTING BUD",
    "NORTH EAST POINTING BUD", "SOUTH EAST POINTING BUD", "HOLLOW QUILT SQUARE ORNAMENT",
    "HOLLOW QUILT SQUARE ORNAMENT IN BLACK SQUARE", "SOLID QUILT SQUARE ORNAMENT",
    "SOLID QUILT SQUARE ORNAMENT IN BLACK SQUARE", "SCRIPT LIGATURE ET ORNAMENT",
    "LIGATURE OPEN ET ORNAMENT", "SWASH AMPERSAND ORNAMENT",
    "SANS-SERIF HEAVY DOUBLE TURNED COMMA QUOTATION MARK ORNAMENT",
    "SANS-SERIF HEAVY DOUBLE COMMA QUOTATION MARK ORNAMENT",
    "SANS-SERIF HEAVY LOW DOUBLE COMMA QUOTATION MARK ORNAMENT", "SANS-SERIF INTERROBANG ORNAMENT",
    "VERY HEAVY SOLIDUS", "VERY HEAVY REVERSE SOLIDUS", "CHECKER BOARD", "REVERSE CHECKER BOARD",
    "ROCKET", "HELICOPTER", "STEAM LOCOMOTIVE", "RAILWAY CAR", "HIGH-SPEED TRAIN",
    "HIGH-SPEED TRAIN WITH BULLET NOSE", "TRAIN", "METRO", "LIGHT RAIL", "STATION", "TRAM",
    "TRAM CAR", "BUS", "ONCOMING BUS", "TROLLEYBUS", "BUS STOP", "MINIBUS", "AMBULANCE",
    "FIRE ENGINE", "POLICE CAR", "ONCOMING POLICE CAR", "TAXI", "ONCOMING TAXI", "AUTOMOBILE",
    "ONCOMING AUTOMOBILE", "RECREATIONAL VEHICLE", "DELIVERY TRUCK", "ARTICULATED LORRY", "TRACTOR",
    "MONORAIL", "MOUNTAIN RAILWAY", "SUSPENSION RAILWAY", "MOUNTAIN CABLEWAY", "AERIAL TRAMWAY",
    "SHIP", "ROWBOAT", "SPEEDBOAT", "VERTICAL TRAFFIC LIGHT", "CONSTRUCTION SIGN",
    "POLICE CARS REVOLVING LIGHT", "TRIANGULAR FLAG ON POST", "DOOR", "NO ENTRY SIGN",
    "SMOKING SYMBOL", "NO SMOKING SYMBOL", "PUT LITTER IN ITS PLACE SYMBOL", "DO NOT LITTER SYMBOL",
    "POTABLE WATER SYMBOL", "NON-POTABLE WATER SYMBOL", "BICYCLE", "NO BICYCLES", "BICYCLIST",
    "MOUNTAIN BICYCLIST", "PEDESTRIAN", "NO PEDESTRIANS", "CHILDREN CROSSING", "MENS SYMBOL",
    "WOMENS SYMBOL", "RESTROOM", "BABY SYMBOL", "TOILET", "WATER CLOSET", "SHOWER", "BATH",
    "BATHTUB", "PASSPORT CONTROL", "CUSTOMS", "BAGGAGE CLAIM", "TRIANGLE WITH ROUNDED CORNERS",
    "PROHIBITED SIGN", "BOYS SYMBOL", "GIRLS SYMBOL", "COUCH AND LAMP", "SLEEPING ACCOMMODATION",
    "SHOPPING BAGS", "BELLHOP BELL", "BED", "PLACE OF WORSHIP", "OCTAGONAL SIGN",
    "SHOPPING TROLLEY", "STUPA", "PAGODA", "HINDU TEMPLE", "HUT", "ELEVATOR", "PLAYGROUND SLIDE",
    "WHEEL", "RING BUOY", "HAMMER AND WRENCH", "SHIELD", "OIL DRUM", "MOTORWAY", "RAILWAY TRACK",
    "MOTOR BOAT", "UP-POINTING MILITARY AIRPLANE", "UP-POINTING AIRPLANE",
    "UP-POINTING SMALL AIRPLANE", "SMALL AIRPLANE", "NORTHEAST-POINTING AIRPLANE",
    "AIRPLANE DEPARTURE", "AIRPLANE ARRIVING", "SATELLITE", "ONCOMING FIRE ENGINE",
    "DIESEL LOCOMOTIVE", "PASSENGER SHIP", "SCOOTER", "MOTOR SCOOTER", "CANOE", "SLED",
    "FLYING SAUCER", "SKATEBOARD", "AUTO RICKSHAW", "PICKUP TRUCK", "ROLLER SKATE",
    "DOWNWARD FACING HOOK", "DOWNWARD FACING NOTCHED HOOK", "DOWNWARD FACING HOOK WITH DOT",
    "DOWNWARD FACING NOTCHED HOOK WITH DOT", "PINCHED FINGERS", "BROWN HEART", "PINCHING HAND",
    "ZIPPER-MOUTH FACE", "MONEY-MOUTH FACE", "NERD FACE", "THINKING FACE", "ROBOT FACE",
    "HUGGING FACE", "SIGN OF THE HORNS", "CALL ME HAND", "RAISED BACK OF HAND", "LEFT-FACING FIST",
    "RIGHT-FACING FIST", "HANDSHAKE", "HAND WITH INDEX AND MIDDLE FINGERS CROSSED",
    "I LOVE YOU HAND SIGN", "CLOWN FACE", "NAUSEATED FACE", "ROLLING ON THE FLOOR LAUGHING",
    "DROOLING FACE", "LYING FACE", "FACE PALM", "SNEEZING FACE", "GRINNING FACE WITH STAR EYES",
    "GRINNING FACE WITH ONE LARGE AND ONE SMALL EYE", "SERIOUS FACE WITH SYMBOLS COVERING MOUTH",
    "SHOCKED FACE WITH EXPLODING HEAD", "PREGNANT WOMAN", "BREAST-FEEDING", "PALMS UP TOGETHER",
    "SELFIE", "PRINCE", "MAN IN TUXEDO", "MOTHER CHRISTMAS", "SHRUG", "PERSON DOING CARTWHEEL",
    "JUGGLING", "FENCER", "MODERN PENTATHLON", "WRESTLERS", "WATER POLO", "HANDBALL", "DIVING MASK",
    "WILTED FLOWER", "DRUM WITH DRUMSTICKS", "CLINKING GLASSES", "TUMBLER GLASS", "SPOON",
    "GOAL NET", "RIFLE", "FIRST PLACE MEDAL", "SECOND PLACE MEDAL", "THIRD PLACE MEDAL",
    "BOXING GLOVE", "MARTIAL ARTS UNIFORM", "CURLING STONE", "LACROSSE STICK AND BALL", "SOFTBALL",
    "FLYING DISC", "CROISSANT", "AVOCADO", "CUCUMBER", "BACON", "POTATO", "CARROT",
    "BAGUETTE BREAD", "GREEN SALAD", "SHALLOW PAN OF FOOD", "STUFFED FLATBREAD", "EGG",
    "GLASS OF MILK", "PEANUTS", "KIWIFRUIT", "PANCAKES", "DUMPLING", "FORTUNE COOKIE",
    "TAKEOUT BOX", "CHOPSTICKS", "BOWL WITH SPOON", "CUP WITH STRAW", "COCONUT", "BROCCOLI", "PIE",
    "PRETZEL", "CUT OF MEAT", "SANDWICH", "CANNED FOOD", "LEAFY GREEN", "MANGO", "MOON CAKE",
    "BAGEL", "YAWNING FACE", "OVERHEATED FACE", "FREEZING FACE", "NINJA", "DISGUISED FACE",
    "FACE HOLDING BACK TEARS", "SARI", "LAB COAT", "GOGGLES", "HIKING BOOT", "FLAT SHOE", "CRAB",
    "LION FACE", "SCORPION", "TURKEY", "UNICORN FACE", "EAGLE", "DUCK", "BAT", "SHARK", "OWL",
    "FOX FACE", "BUTTERFLY", "DEER", "GORILLA", "LIZARD", "RHINOCEROS", "SHRIMP", "SQUID",
    "GIRAFFE FACE", "ZEBRA FACE", "HEDGEHOG", "SAUROPOD", "T-REX", "CRICKET", "KANGAROO", "LLAMA",
    "PEACOCK", "HIPPOPOTAMUS", "PARROT", "RACCOON", "LOBSTER", "MOSQUITO", "MICROBE", "BADGER",
    "SWAN", "MAMMOTH", "DODO", "SLOTH", "OTTER", "ORANGUTAN", "SKUNK", "FLAMINGO", "OYSTER",
    "BEAVER", "BISON", "SEAL", "GUIDE DOG", "PROBING CANE", "EMOJI COMPONENT RED HAIR",
    "EMOJI COMPONENT CURLY HAIR", "EMOJI COMPONENT BALD", "EMOJI COMPONENT WHITE HAIR", "BONE",
    "LEG", "FOOT", "TOOTH", "SUPERHERO", "SUPERVILLAIN", "SAFETY VEST", "EAR WITH HEARING AID",
    "MOTORIZED WHEELCHAIR", "MANUAL WHEELCHAIR", "MECHANICAL ARM", "MECHANICAL LEG", "CHEESE WEDGE",
    "CUPCAKE", "SALT SHAKER", "BEVERAGE BOX", "GARLIC", "ONION", "FALAFEL", "WAFFLE", "BUTTER",
    "MATE DRINK", "ICE CUBE", "BUBBLE TEA", "TROLL", "STANDING PERSON", "KNEELING PERSON",
    "DEAF PERSON", "ADULT", "CHILD", "OLDER ADULT", "BEARDED PERSON", "PERSON WITH HEADSCARF",
    "PERSON IN STEAMY ROOM", "PERSON CLIMBING", "PERSON IN LOTUS POSITION", "MAGE", "FAIRY",
    "VAMPIRE", "MERPERSON", "ELF", "GENIE", "ZOMBIE", "BRAIN", "ORANGE HEART", "BILLED CAP",
    "SCARF", "GLOVES", "COAT", "SOCKS", "RED GIFT ENVELOPE", "FIRECRACKER", "JIGSAW PUZZLE PIECE",
    "TEST TUBE", "PETRI DISH", "DNA DOUBLE HELIX", "COMPASS", "ABACUS", "FIRE EXTINGUISHER",
    "TOOLBOX", "BRICK", "MAGNET", "LUGGAGE", "LOTION BOTTLE", "SPOOL OF THREAD", "BALL OF YARN",
    "SAFETY PIN", "TEDDY BEAR", "BROOM", "BASKET", "ROLL OF PAPER", "BAR OF SOAP", "SPONGE",
    "RECEIPT", "NAZAR AMULET", "BALLET SHOES", "ONE-PIECE SWIMSUIT", "BRIEFS", "SHORTS",
    "THONG SANDAL", "DROP OF BLOOD", "ADHESIVE BANDAGE", "STETHOSCOPE", "X-RAY", "CRUTCH", "YO-YO",
    "KITE", "PARACHUTE", "BOOMERANG", "MAGIC WAND", "PINATA", "NESTING DOLLS", "RINGED PLANET",
    "CHAIR", "RAZOR", "AXE", "DIYA LAMP", "BANJO", "MILITARY HELMET", "ACCORDION", "LONG DRUM",
    "COIN", "CARPENTRY SAW", "SCREWDRIVER", "LADDER", "HOOK", "MIRROR", "WINDOW", "PLUNGER",
    "SEWING NEEDLE", "KNOT", "BUCKET", "MOUSE TRAP", "TOOTHBRUSH", "HEADSTONE", "PLACARD", "ROCK",
    "MIRROR BALL", "IDENTIFICATION CARD", "LOW BATTERY", "HAMSA", "FLY", "WORM", "BEETLE",
    "COCKROACH", "POTTED PLANT", "WOOD", "FEATHER", "LOTUS", "CORAL", "EMPTY NEST",
    "NEST WITH EGGS", "ANATOMICAL HEART", "LUNGS", "PEOPLE HUGGING", "PREGNANT MAN",
    "PREGNANT PERSON", "PERSON WITH CROWN", "BLUEBERRIES", "BELL PEPPER", "OLIVE", "FLATBREAD",
    "TAMALE", "FONDUE", "TEAPOT", "POURING LIQUID", "BEANS", "JAR", "MELTING FACE", "SALUTING FACE",
    "DOTTED LINE FACE", "BITING LIP", "BUBBLES", "HAND WITH INDEX FINGER AND THUMB CROSSED",
    "PALM DOWN HAND", "PALM UP HAND", "INDEX POINTING AT THE VIEWER", "HEART HANDS", "NULL", "NUL",
    "START OF HEADING", "SOH", "START OF TEXT", "STX", "END OF TEXT", "ETX", "END OF TRANSMISSION",
    "EOT", "ENQUIRY", "ENQ", "ACKNOWLEDGE", "ACK", "ALERT", "BEL", "BACKSPACE", "BS",
    "CHARACTER TABULATION", "HT", "TAB", "LINE FEED", "NEW LINE", "END OF LINE", "LF", "NL", "EOL",
    "LINE TABULATION", "VERTICAL TABULATION", "VT", "FORM FEED", "FF", "CARRIAGE RETURN", "CR",
    "SHIFT OUT", "LOCKING-SHIFT ONE", "SO", "SHIFT IN", "LOCKING-SHIFT ZERO", "SI",
    "DATA LINK ESCAPE", "DLE", "DEVICE CONTROL ONE", "DC1", "DEVICE CONTROL TWO", "DC2",
    "DEVICE CONTROL THREE", "DC3", "DEVICE CONTROL FOUR", "DC4", "NEGATIVE ACKNOWLEDGE", "NAK",
    "SYNCHRONOUS IDLE", "SYN", "END OF TRANSMISSION BLOCK", "ETB", "CANCEL", "CAN", "END OF MEDIUM",
    "EOM", "SUBSTITUTE", "SUB", "ESCAPE", "ESC", "INFORMATION SEPARATOR FOUR", "FILE SEPARATOR",
    "FS", "INFORMATION SEPARATOR THREE", "GROUP SEPARATOR", "GS", "INFORMATION SEPARATOR TWO",
    "RECORD SEPARATOR", "RS", "INFORMATION SEPARATOR ONE", "UNIT SEPARATOR", "US", "SP", "DELETE",
    "DEL", "PADDING CHARACTER", "PAD", "HIGH OCTET PRESET", "HOP", "BREAK PERMITTED HERE", "BPH",
    "NO BREAK HERE", "NBH", "INDEX", "IND", "NEXT LINE", "NEL", "START OF SELECTED AREA", "SSA",
    "END OF SELECTED AREA", "ESA", "CHARACTER TABULATION SET", "HTS",
    "CHARACTER TABULATION WITH JUSTIFICATION", "HTJ", "LINE TABULATION SET",
    "VERTICAL TABULATION SET", "VTS", "PARTIAL LINE FORWARD", "PARTIAL LINE DOWN", "PLD",
    "PARTIAL LINE BACKWARD", "PARTIAL LINE UP", "PLU", "REVERSE LINE FEED", "REVERSE INDEX", "RI",
    "SINGLE SHIFT TWO", "SINGLE-SHIFT-2", "SS2", "SINGLE SHIFT THREE", "SINGLE-SHIFT-3", "SS3",
    "DEVICE CONTROL STRING", "DCS", "PRIVATE USE ONE", "PRIVATE USE-1", "PU1", "PRIVATE USE TWO",
    "PRIVATE USE-2", "PU2", "SET TRANSMIT STATE", "STS", "CANCEL CHARACTER", "CCH",
    "MESSAGE WAITING", "MW", "START OF GUARDED AREA", "START OF PROTECTED AREA", "SPA",
    "END OF GUARDED AREA", "END OF PROTECTED AREA", "EPA", "START OF STRING", "SOS",
    "SINGLE GRAPHIC CHARACTER INTRODUCER", "SGC", "SINGLE CHARACTER INTRODUCER", "SCI",
    "CONTROL SEQUENCE INTRODUCER", "CSI", "STRING TERMINATOR", "ST", "OPERATING SYSTEM COMMAND",
    "OSC", "PRIVACY MESSAGE", "PM", "APPLICATION PROGRAM COMMAND", "APC", "NBSP", "SHY", "CGJ",
    "ZWSP", "ZWNJ", "ZWJ", "LRM", "RLM", "LRE", "RLE", "PDF", "LRO", "RLO", "NNBSP", "MMSP", "WJ",
    "LRI", "RLI", "FSI", "PDI", "WEIERSTRASS ELLIPTIC FUNCTION", "VS1", "VS15", "VS16",
    "BYTE ORDER MARK", "BOM", "ZWNBSP"]

def ideographs : List (Nat × Nat) :=
  [(0x3400, 0x4dbf), (0x4e00, 0x9fff), (0x20000, 0x2a6df), (0x2a700, 0x2b738), (0x2b740, 0x2b81d),
    (0x2b820, 0x2cea1), (0x2ceb0, 0x2ebe0), (0x30000, 0x3134a)]

def capitalHexDigits : List Char := "0123456789ABCDEF".toList

def isIdeographNumber (digits : List Char) : Bool :=
  (digits.length = 4 || digits.length = 5) && digits.all capitalHexDigits.contains &&
    let number := digits.foldl (fun n c => 16 * n + capitalHexDigits.idxOf c) 0
    ideographs.any fun (first, last) => first ≤ number && number ≤ last

def firstLetters : List String :=
  ["", "G", "GG", "N", "D", "DD", "R", "M", "B", "BB", "S", "SS", "J", "JJ", "C", "K", "T", "P",
    "H"]

def middleLetters : List String :=
  ["A", "AE", "YA", "YAE", "EO", "E", "YEO", "YE", "O", "WA", "WAE", "OE", "YO", "U", "WEO", "WE",
    "WI", "YU", "EU", "YI", "I"]

def lastLetters : List String :=
  ["", "G", "GG", "GS", "N", "NJ", "NH", "D", "L", "LG", "LM", "LB", "LS", "LT", "LP", "LH", "M",
    "B", "BS", "S", "SS", "NG", "J", "C", "K", "T", "P", "H"]

def isSyllable (letters : String) : Bool :=
  firstLetters.any fun first =>
    middleLetters.any fun middle =>
      lastLetters.any fun last => first ++ middle ++ last = letters

def isNameWith (beginning : String) (isRest : List Char → Bool) (name : String) : Bool :=
  beginning.toList.isPrefixOf name.toList && isRest (name.toList.drop beginning.length)

def isCharacterName (name : String) : Bool :=
  let upper := name.map Char.toUpper
  singleNames.contains upper ||
    (nameGroups.any fun g => g.endings.any fun ending => g.leading ++ " " ++ ending = upper) ||
    isNameWith "CJK UNIFIED IDEOGRAPH-" isIdeographNumber name ||
    isNameWith "HANGUL SYLLABLE " (isSyllable ∘ String.ofList) name

end WindSymbols.Text
