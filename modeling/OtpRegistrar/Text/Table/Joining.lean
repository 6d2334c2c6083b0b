/-
Code points whose columns depend on what stands beside them, after Unicode: spacing marks, pictures,
pictures that are narrow as text, the signs that join two consonants, and the consonants that can be
joined. Data only; `Text/Extent` states the rules.
-/
namespace OtpRegistrar.Text.Table

/-- Marks that take a column behind their base. -/
def spacingMark : List (Nat × Nat) :=
  [(2307, 2307), (2363, 2363), (2366, 2368), (2377, 2380), (2382, 2383), (2434, 2435),
   (2494, 2496), (2503, 2504), (2507, 2508), (2519, 2519), (2563, 2563), (2622, 2624),
   (2691, 2691), (2750, 2752), (2761, 2761), (2763, 2764), (2818, 2819), (2878, 2878),
   (2880, 2880), (2887, 2888), (2891, 2892), (2903, 2903), (3006, 3007), (3009, 3010),
   (3014, 3016), (3018, 3020), (3031, 3031), (3073, 3075), (3137, 3140), (3202, 3203),
   (3262, 3262), (3264, 3268), (3271, 3272), (3274, 3275), (3285, 3286), (3315, 3315),
   (3330, 3331), (3390, 3392), (3398, 3400), (3402, 3404), (3415, 3415), (3458, 3459),
   (3535, 3537), (3544, 3551), (3570, 3571), (3902, 3903), (3967, 3967), (4139, 4140),
   (4145, 4145), (4152, 4152), (4155, 4156), (4182, 4183), (4194, 4196), (4199, 4205),
   (4227, 4228), (4231, 4236), (4239, 4239), (4250, 4252), (5909, 5909), (5940, 5940),
   (6070, 6070), (6078, 6085), (6087, 6088), (6435, 6438), (6441, 6443), (6448, 6449),
   (6451, 6456), (6681, 6682), (6741, 6741), (6743, 6743), (6753, 6753), (6755, 6756),
   (6765, 6770), (6916, 6916), (6965, 6965), (6971, 6971), (6973, 6977), (6979, 6980),
   (7042, 7042), (7073, 7073), (7078, 7079), (7082, 7082), (7143, 7143), (7146, 7148),
   (7150, 7150), (7154, 7155), (7204, 7211), (7220, 7221), (7393, 7393), (7415, 7415),
   (12334, 12335), (43043, 43044), (43047, 43047), (43136, 43137), (43188, 43203), (43346, 43347),
   (43395, 43395), (43444, 43445), (43450, 43451), (43454, 43456), (43567, 43568), (43571, 43572),
   (43597, 43597), (43643, 43643), (43645, 43645), (43755, 43755), (43758, 43759), (43765, 43765),
   (44003, 44004), (44006, 44007), (44009, 44010), (44012, 44012), (69632, 69632), (69634, 69634),
   (69762, 69762), (69808, 69810), (69815, 69816), (69932, 69932), (69957, 69958), (70018, 70018),
   (70067, 70069), (70079, 70080), (70094, 70094), (70188, 70190), (70194, 70195), (70197, 70197),
   (70368, 70370), (70402, 70403), (70462, 70463), (70465, 70468), (70471, 70472), (70475, 70477),
   (70487, 70487), (70498, 70499), (70584, 70586), (70594, 70594), (70597, 70597), (70599, 70602),
   (70604, 70605), (70607, 70607), (70709, 70711), (70720, 70721), (70725, 70725), (70832, 70834),
   (70841, 70841), (70843, 70846), (70849, 70849), (71087, 71089), (71096, 71099), (71102, 71102),
   (71216, 71218), (71227, 71228), (71230, 71230), (71340, 71340), (71342, 71343), (71350, 71350),
   (71454, 71454), (71456, 71457), (71462, 71462), (71724, 71726), (71736, 71736), (71984, 71989),
   (71991, 71992), (71997, 71997), (72000, 72000), (72002, 72002), (72145, 72147), (72156, 72159),
   (72164, 72164), (72249, 72249), (72279, 72280), (72343, 72343), (72545, 72545), (72549, 72549),
   (72551, 72551), (72751, 72751), (72766, 72766), (72873, 72873), (72881, 72881), (72884, 72884),
   (73098, 73102), (73107, 73108), (73110, 73110), (73461, 73462), (73475, 73475), (73524, 73525),
   (73534, 73535), (73537, 73537), (90410, 90412), (94033, 94087), (94192, 94193),
   (119141, 119142), (119149, 119154)]

/-- Pictures, which a tone of skin may follow. -/
def pictograph : List (Nat × Nat) :=
  [(169, 169), (174, 174), (8252, 8252), (8265, 8265), (8482, 8482), (8505, 8505), (8596, 8601),
   (8617, 8618), (8986, 8987), (9000, 9000), (9167, 9167), (9193, 9203), (9208, 9210),
   (9410, 9410), (9642, 9643), (9654, 9654), (9664, 9664), (9723, 9726), (9728, 9732),
   (9742, 9742), (9745, 9745), (9748, 9749), (9752, 9752), (9757, 9757), (9760, 9760),
   (9762, 9763), (9766, 9766), (9770, 9770), (9774, 9775), (9784, 9786), (9792, 9792),
   (9794, 9794), (9800, 9811), (9823, 9824), (9827, 9827), (9829, 9830), (9832, 9832),
   (9851, 9851), (9854, 9855), (9874, 9879), (9881, 9881), (9883, 9884), (9888, 9889),
   (9895, 9895), (9898, 9899), (9904, 9905), (9917, 9918), (9924, 9925), (9928, 9928),
   (9934, 9935), (9937, 9937), (9939, 9940), (9961, 9962), (9968, 9973), (9975, 9978),
   (9981, 9981), (9986, 9986), (9989, 9989), (9992, 9997), (9999, 9999), (10002, 10002),
   (10004, 10004), (10006, 10006), (10013, 10013), (10017, 10017), (10024, 10024), (10035, 10036),
   (10052, 10052), (10055, 10055), (10060, 10060), (10062, 10062), (10067, 10069), (10071, 10071),
   (10083, 10084), (10133, 10135), (10145, 10145), (10160, 10160), (10175, 10175), (10548, 10549),
   (11013, 11015), (11035, 11036), (11088, 11088), (11093, 11093), (12336, 12336), (12349, 12349),
   (12951, 12951), (12953, 12953), (126980, 126980), (127020, 127023), (127124, 127135),
   (127151, 127152), (127168, 127168), (127183, 127184), (127222, 127231), (127344, 127345),
   (127358, 127359), (127374, 127374), (127377, 127386), (127406, 127461), (127489, 127503),
   (127514, 127514), (127535, 127535), (127538, 127546), (127548, 127551), (127561, 127583),
   (127590, 127777), (127780, 127891), (127894, 127895), (127897, 127899), (127902, 127984),
   (127987, 127989), (127991, 127994), (128000, 128253), (128255, 128317), (128329, 128334),
   (128336, 128359), (128367, 128368), (128371, 128378), (128391, 128391), (128394, 128397),
   (128400, 128400), (128405, 128406), (128420, 128421), (128424, 128424), (128433, 128434),
   (128444, 128444), (128450, 128452), (128465, 128467), (128476, 128478), (128481, 128481),
   (128483, 128483), (128488, 128488), (128495, 128495), (128499, 128499), (128506, 128591),
   (128640, 128709), (128715, 128722), (128725, 128741), (128745, 128745), (128747, 128752),
   (128755, 128767), (128986, 129023), (129036, 129039), (129096, 129103), (129114, 129119),
   (129160, 129167), (129198, 129199), (129212, 129215), (129218, 129231), (129241, 129279),
   (129292, 129338), (129340, 129349), (129351, 129535), (129624, 129631), (129646, 129791),
   (130048, 131069)]

/-- Pictures that are shown as text, in one column, unless something asks for a picture. -/
def textPictograph : List (Nat × Nat) :=
  [(35, 35), (42, 42), (48, 57), (169, 169), (174, 174), (8252, 8252), (8265, 8265), (8482, 8482),
   (8505, 8505), (8596, 8601), (8617, 8618), (9000, 9000), (9167, 9167), (9197, 9199),
   (9201, 9202), (9208, 9210), (9410, 9410), (9642, 9643), (9654, 9654), (9664, 9664),
   (9723, 9724), (9728, 9732), (9742, 9742), (9745, 9745), (9752, 9752), (9757, 9757),
   (9760, 9760), (9762, 9763), (9766, 9766), (9770, 9770), (9774, 9775), (9784, 9786),
   (9792, 9792), (9794, 9794), (9823, 9824), (9827, 9827), (9829, 9830), (9832, 9832),
   (9851, 9851), (9854, 9854), (9874, 9874), (9876, 9879), (9881, 9881), (9883, 9884),
   (9888, 9888), (9895, 9895), (9904, 9905), (9928, 9928), (9935, 9935), (9937, 9937),
   (9939, 9939), (9961, 9961), (9968, 9969), (9972, 9972), (9975, 9977), (9986, 9986),
   (9992, 9993), (9996, 9997), (9999, 9999), (10002, 10002), (10004, 10004), (10006, 10006),
   (10013, 10013), (10017, 10017), (10035, 10036), (10052, 10052), (10055, 10055), (10083, 10084),
   (10145, 10145), (10548, 10549), (11013, 11015), (127344, 127345), (127358, 127359),
   (127777, 127777), (127780, 127788), (127798, 127798), (127869, 127869), (127894, 127895),
   (127897, 127899), (127902, 127903), (127947, 127950), (127956, 127967), (127987, 127987),
   (127989, 127989), (127991, 127991), (128063, 128063), (128065, 128065), (128253, 128253),
   (128329, 128330), (128367, 128368), (128371, 128377), (128391, 128391), (128394, 128397),
   (128400, 128400), (128421, 128421), (128424, 128424), (128433, 128434), (128444, 128444),
   (128450, 128452), (128465, 128467), (128476, 128478), (128481, 128481), (128483, 128483),
   (128488, 128488), (128495, 128495), (128499, 128499), (128506, 128506), (128715, 128715),
   (128717, 128719), (128736, 128741), (128745, 128745), (128752, 128752), (128755, 128755)]

/-- Signs that take the vowel off a consonant and join it to the next one. -/
def virama : List (Nat × Nat) :=
  [(2381, 2381), (2509, 2509), (2637, 2637), (2765, 2765), (2893, 2893), (3021, 3021),
   (3149, 3149), (3277, 3277), (3405, 3405), (3530, 3530), (6980, 6980), (43014, 43014),
   (43204, 43204), (43456, 43456), (69702, 69702), (69817, 69817), (70080, 70080), (70197, 70197),
   (70477, 70477), (70606, 70606), (70722, 70722), (70850, 70850), (71103, 71103), (71231, 71231),
   (71350, 71350), (71737, 71737), (72160, 72160), (72767, 72767)]

/-- Consonants that can be joined. -/
def consonant : List (Nat × Nat) :=
  [(2325, 2361), (2392, 2399), (2424, 2431), (2453, 2472), (2474, 2480), (2482, 2482),
   (2486, 2489), (2524, 2525), (2527, 2527), (2544, 2545), (2581, 2600), (2602, 2608),
   (2610, 2611), (2613, 2614), (2616, 2617), (2649, 2652), (2654, 2654), (2709, 2728),
   (2730, 2736), (2738, 2739), (2741, 2745), (2809, 2809), (2837, 2856), (2858, 2864),
   (2866, 2867), (2869, 2873), (2908, 2909), (2911, 2911), (2929, 2929), (2965, 2965),
   (2969, 2970), (2972, 2972), (2974, 2975), (2979, 2980), (2984, 2986), (2990, 3001),
   (3093, 3112), (3114, 3129), (3160, 3162), (3221, 3240), (3242, 3251), (3253, 3257),
   (3294, 3294), (3349, 3386), (3482, 3505), (3507, 3515), (3517, 3517), (3520, 3526),
   (3585, 3630), (3713, 3714), (3716, 3716), (3718, 3722), (3724, 3747), (3749, 3749),
   (3751, 3758), (3804, 3807), (3904, 3911), (3913, 3948), (4096, 4128), (4159, 4159),
   (4176, 4177), (4186, 4189), (4193, 4193), (4197, 4198), (4206, 4208), (4213, 4225),
   (4238, 4238), (5891, 5905), (5919, 5919), (5923, 5937), (5955, 5969), (5987, 5996),
   (5998, 6000), (6016, 6050), (6401, 6430), (6480, 6498), (6528, 6571), (6656, 6678),
   (6688, 6732), (6739, 6740), (6931, 6963), (6981, 6988), (7050, 7072), (7086, 7087),
   (7099, 7101), (7104, 7139), (7168, 7203), (7245, 7247), (43015, 43018), (43020, 43042),
   (43072, 43101), (43106, 43109), (43113, 43120), (43122, 43122), (43154, 43187), (43274, 43297),
   (43312, 43334), (43401, 43403), (43407, 43442), (43488, 43492), (43495, 43503), (43514, 43518),
   (43526, 43560), (43616, 43631), (43633, 43635), (43642, 43642), (43646, 43695), (43746, 43754),
   (43968, 43981), (43984, 43984), (43986, 43994), (68096, 68096), (68112, 68115), (68117, 68119),
   (68121, 68149), (69651, 69687), (69749, 69749), (69773, 69807), (69895, 69926), (69956, 69956),
   (69959, 69959), (69973, 70002), (70033, 70066), (70152, 70161), (70163, 70187), (70207, 70207),
   (70276, 70278), (70280, 70280), (70282, 70285), (70287, 70301), (70303, 70312), (70330, 70366),
   (70421, 70440), (70442, 70448), (70450, 70451), (70453, 70457), (70546, 70581), (70670, 70708),
   (70799, 70831), (71054, 71086), (71182, 71215), (71306, 71338), (71352, 71352), (71424, 71450),
   (71488, 71494), (71690, 71723), (71948, 71955), (71957, 71958), (71960, 71983), (72110, 72144),
   (72203, 72242), (72284, 72323), (72718, 72750), (72818, 72847), (72972, 73008), (73068, 73097),
   (73440, 73457), (73490, 73523)]

end OtpRegistrar.Text.Table
